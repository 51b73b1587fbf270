import HeadsetAdk.Upgrade.AcceptedHeader

/-! # Complete transfers -/

namespace HeadsetAdk.Upgrade

open List (append_assoc append_nil length_append nil_append length_cons flatMap_cons)
open UpgradeCtx

/-- A number of two bytes, the high one first. -/
def put2Bytes (value : Nat) : List UInt8 := [UInt8.ofNat (value / 2 ^ 8), UInt8.ofNat value]

/-- A number of four bytes, the highest first. -/
def put4Bytes (value : Nat) : List UInt8 := put2Bytes (value / 2 ^ 16) ++ put2Bytes value

def putFirstWord (value : Nat) : List UInt8 := (put4Bytes value).reverse

structure Component where
  sqifNum : Nat
  partNum : Nat
  firstWord : Nat
  data : List UInt8
  sqifNum_lt : sqifNum < 2 ^ 16
  valid : isValidPartitionNum partNum = true
  firstWord_lt : firstWord < 2 ^ 32

namespace Component

def firstPart (component : Component) : List UInt8 :=
  partitionID ++ put4Bytes (component.data.length + 8)

def dataHeader (component : Component) : List UInt8 :=
  put2Bytes component.sqifNum ++ put2Bytes component.partNum ++ putFirstWord component.firstWord

def bytes (component : Component) : List UInt8 :=
  component.firstPart ++ (component.dataHeader ++ component.data)

def events (component : Component) : Flash :=
  .opened component.partNum component.firstWord ::
    (component.data.map (.wrote component.partNum) ++ [.closed component.partNum])

end Component

structure UpgradeFile where
  header : List UInt8
  components : List Component
  signature : List UInt8
  signature_length : signature.length = expectedSignatureSize

namespace UpgradeFile

def footer (file : UpgradeFile) : List UInt8 :=
  footerID ++ put4Bytes expectedSignatureSize ++ file.signature

def bytes (file : UpgradeFile) : List UInt8 :=
  headerID ++ put4Bytes file.header.length ++
    (file.header ++ (file.components.flatMap Component.bytes ++ file.footer))

end UpgradeFile

def Firmware.Erased (firmware : Firmware) : Prop :=
  ∀ (flash : Flash) (partition firstWord : Nat), (∀ byte, .wrote partition byte ∉ flash) →
    firmware.sinkGetPosition (flash ++ [.opened partition firstWord]) partition = 0

section Numbers

theorem get2Bytes_append (before data : List UInt8) (at' : Nat) :
    get2Bytes (before ++ data) (before.length + at') = get2Bytes data at' := by
  rw [get2Bytes, get2Bytes, Nat.add_assoc, List.getElem?_append_right (Nat.le_add_right _ _),
    List.getElem?_append_right (Nat.le_add_right _ _), Nat.add_sub_cancel_left,
    Nat.add_sub_cancel_left]

theorem get4Bytes_append (before data : List UInt8) (at' : Nat) :
    get4Bytes (before ++ data) (before.length + at') = get4Bytes data at' := by
  rw [get4Bytes, get4Bytes, Nat.add_assoc, get2Bytes_append, get2Bytes_append]

theorem get2Bytes_put2Bytes (value : Nat) (after : List UInt8) :
    get2Bytes (put2Bytes value ++ after) 0 = some (value % 2 ^ 16) := by
  change some ((UInt8.ofNat (value / 2 ^ 8)).toNat * 2 ^ 8 + (UInt8.ofNat value).toNat) = _
  rw [UInt8.toNat_ofNat', UInt8.toNat_ofNat']
  congr 1
  omega

variable {value : Nat}

theorem get4Bytes_put4Bytes (small : value < 2 ^ 32) (after : List UInt8) :
    get4Bytes (put4Bytes value ++ after) 0 = some value := by
  have high : get2Bytes (put4Bytes value ++ after) 0 = some (value / 2 ^ 16 % 2 ^ 16) := by
    rw [put4Bytes, append_assoc, get2Bytes_put2Bytes]
  have low : get2Bytes (put4Bytes value ++ after) (0 + 2) = some (value % 2 ^ 16) := by
    rw [put4Bytes, append_assoc]
    exact (get2Bytes_append (put2Bytes (value / 2 ^ 16)) _ 0).trans (get2Bytes_put2Bytes _ _)
  rw [get4Bytes, high, low]
  dsimp only
  congr 1
  omega

theorem get4Bytes_behind (before : List UInt8) (small : value < 2 ^ 32) :
    get4Bytes (before ++ put4Bytes value) before.length = some value := by
  have read := (get4Bytes_append before _ 0).trans (get4Bytes_put4Bytes small [])
  rw [append_nil] at read
  exact read

theorem getFirstWord_putFirstWord (small : value < 2 ^ 32) (before : List UInt8) :
    getFirstWord (before ++ putFirstWord value) before.length = some value := by
  rw [getFirstWord, List.getElem?_append_right (Nat.le_refl _),
    List.getElem?_append_right (Nat.le_add_right _ _),
    List.getElem?_append_right (Nat.le_add_right _ _),
    List.getElem?_append_right (Nat.le_add_right _ _), Nat.sub_self, Nat.add_sub_cancel_left,
    Nat.add_sub_cancel_left, Nat.add_sub_cancel_left]
  change some ((UInt8.ofNat (value / 2 ^ 16 / 2 ^ 8)).toNat * 2 ^ 24 +
    (UInt8.ofNat (value / 2 ^ 16)).toNat * 2 ^ 16 + (UInt8.ofNat (value / 2 ^ 8)).toNat * 2 ^ 8 +
      (UInt8.ofNat value).toNat) = _
  simp only [UInt8.toNat_ofNat']
  congr 1
  omega

theorem take_of_idField {data id : List UInt8} (length : id.length = idFieldSize)
    (text : idField id = id) (same : idField data = idField id) :
    data.take idFieldSize = id := by
  have start : idField data <+: data.take idFieldSize := List.takeWhile_prefix _
  rw [same, text] at start
  exact (start.eq_of_length_le (by rw [length]; exact List.length_take_le _ _)).symm

end Numbers

section Runs

variable {firmware : Firmware} {file before part after : List UInt8} {cut : Cut}
  {ctx last : UpgradeCtx} {position : Nat}

def Completes (firmware : Firmware) (file : List UInt8) (cut : Cut) (ctx : UpgradeCtx)
    (position : Nat) (last : UpgradeCtx) : Prop :=
  ∃ blocks index, transfer firmware file cut blocks index position ctx =
    some (.dataTransferComplete, last)

/-- What has been requested. -/
structure UpgradeCtx.Asks (ctx : UpgradeCtx) (size offset : Nat) : Prop where
  waiting : ctx.Waiting
  newReqSize : ctx.newReqSize = size
  totalReqSize : ctx.totalReqSize = size
  offset : ctx.offset = offset

theorem offered_append (before after : List UInt8) (some : part ≠ []) :
    offered (before ++ (part ++ after)) before.length part.length = Option.some part := by
  have filled := List.length_pos_iff.mpr some
  have inside : ¬ (part.length = 0 ∨
      (before ++ (part ++ after)).length < before.length + part.length) := by
    rw [length_append, length_append]
    omega
  rw [offered, if_neg inside, List.drop_left, List.take_left]

section

variable (completes : Completes firmware file cut ctx position last)

include completes

theorem Completes.block {block : List UInt8}
    (sent : offered file (ctx.nextStart position) ctx.newReqSize = some block) :
    ∃ index code next,
      ctx.getNextReqSize.2.parseAll firmware (cut.packets index block) = some (code, next) ∧
      (code = .success ∧ Completes firmware file cut next
          (ctx.nextStart position + ctx.newReqSize) last ∨
        code = .dataTransferComplete ∧ next = last) := by
  obtain ⟨blocks, index, transferred⟩ := completes
  cases blocks with
  | zero => exact absurd transferred.symm (error_ne_success complete_ne_success)
  | succ blocks =>
    rw [transfer_of_some sent] at transferred
    obtain ⟨⟨code, next⟩, parsed, rest⟩ := Option.bind_eq_some_iff.mp transferred
    refine ⟨index, code, next, parsed, ?_⟩
    by_cases success : code = .success
    · rw [if_pos success] at rest
      exact Or.inl ⟨success, blocks, index + 1, rest⟩
    · rw [if_neg success] at rest
      exact Or.inr (Prod.mk.inj (Option.some.inj rest))

theorem Completes.asks_nothing : ctx.newReqSize ≠ 0 := by
  intro nothing
  obtain ⟨blocks, index, transferred⟩ := completes
  cases blocks with
  | zero => exact absurd transferred.symm (error_ne_success complete_ne_success)
  | succ blocks =>
    rw [transfer_of_none (by rw [nothing, offered, if_pos (Or.inl rfl)])] at transferred
    exact absurd transferred.symm (error_ne_success complete_ne_success)

theorem Completes.header_part
    {offset : Nat} (asks : ctx.Asks part.length offset) (collects : ctx.CollectsHeader)
    (some : part ≠ []) (isFile : file = before ++ (part ++ after))
    (start : ctx.nextStart position = before.length) :
    ∃ keyCache code next,
      (ctx.getNextReqSize.2.receive part.length).parseWhole firmware keyCache part =
        Option.some (code, next) ∧
      (code = .success ∧ Completes firmware file cut next (before.length + part.length) last ∨
        code = .dataTransferComplete ∧ next = last) := by
  have sent : offered file (ctx.nextStart position) ctx.newReqSize = Option.some part := by
    rw [start, asks.newReqSize, isFile]
    exact offered_append _ _ some
  obtain ⟨index, code, next, parsed, rest⟩ := completes.block sent
  rw [start, asks.newReqSize] at rest
  have waiting : ctx.getNextReqSize.2.Waiting :=
    { asks.waiting with }
  have collects' : ctx.getNextReqSize.2.CollectsHeader := collects
  have proper := cut.proper index part
  have joined := cut.block index part
  have filled : cut.packets index part ≠ [] := by
    intro nothing
    rw [nothing] at joined
    exact some joined.symm
  have size : ctx.getNextReqSize.2.totalReqSize = part.length := asks.totalReqSize
  have whole : ([] : List UInt8).length + (cut.packets index part).block.length =
      ctx.getNextReqSize.2.totalReqSize := by
    rw [List.length_nil, Nat.zero_add, joined, size]
  by_cases fits : part.length ≤ maxPartitionDataBlockSize
  · obtain ⟨keyCache, _, parsedAll⟩ := waiting.collected.parseAll waiting collects' firmware proper
      filled whole (by rw [size]; exact fits)
    rw [parsedAll, nil_append, joined, size] at parsed
    exact ⟨keyCache, code, next, parsed, rest⟩
  by_cases single : (cut.packets index part).length = 1
  · obtain ⟨⟨keyCache, data⟩, isSingle⟩ := List.length_eq_one_iff.mp single
    rw [isSingle] at joined
    obtain rfl : data = part := (append_nil data).symm.trans joined
    rw [isSingle, parseAll_singleton, waiting.parse_whole firmware keyCache size.symm] at parsed
    exact ⟨keyCache, code, next, parsed, rest⟩
  · have positive := List.length_pos_iff.mpr filled
    obtain ⟨size', bytes, refused⟩ := waiting.collected.parseAll_refused waiting collects' firmware
      proper (Or.inr (by omega)) whole (Nat.zero_le _) (by omega)
    obtain ⟨rfl, _⟩ := Prod.mk.inj (Option.some.inj (refused.symm.trans parsed))
    rcases rest with ⟨success, _⟩ | ⟨complete, _⟩ <;> contradiction

end

end Runs

namespace UpgradeCtx

variable {firmware : Firmware} {flash : Flash} {lastClosed : Nat} {ctx next : UpgradeCtx}
  {keyCache data : List UInt8} {code : HostErrorCode}

def Passes (code : HostErrorCode) : Prop := code = .success ∨ code = .dataTransferComplete

instance (code : HostErrorCode) : Decidable (Passes code) := inferInstanceAs (Decidable (_ ∨ _))

structure Settled (flash : Flash) (lastClosed : Nat) (ctx : UpgradeCtx) : Prop where
  flash : ctx.flash = flash
  lastClosed : ctx.psKeys.lastClosedPartition = lastClosed
  closed : ctx.partitionHdl = none
  incompleteData : ctx.incompleteData = []

theorem saved_of_passes {after : UpgradeCtx → HostErrorCode × UpgradeCtx}
    (saved : ctx.saveHeaderThen firmware keyCache data after = some (code, next))
    (passes : Passes code) : ∃ store, after (ctx.withStore store) = (code, next) := by
  rw [saveHeaderThen, saveHeader] at saved
  obtain ⟨⟨code', ctx'⟩, savedStore, same⟩ := Option.map_eq_some_iff.mp saved
  obtain ⟨⟨code'', store⟩, savedKeys, same'⟩ := Option.map_eq_some_iff.mp savedStore
  cases same'
  dsimp only at same
  split at same
  · rename_i failed
    cases same
    exact absurd (passes.resolve_right (saveLoop_incomplete savedKeys)) failed
  · exact ⟨store, same⟩

section

variable (settled : Settled flash lastClosed ctx)

include settled

variable {length : Nat}

theorem startHeader_passes (small : length < 2 ^ 32)
    (started : ctx.startHeader firmware keyCache data length = some (code, next))
    (passes : Passes code) :
    code = .success ∧ upgradeHeaderMinSecondPartSize ≤ length ∧
      Settled flash lastClosed next ∧ next.state = .header ∧ next.Asks length 0 := by
  rw [startHeader] at started
  split at started
  · cases started
    exact absurd passes (by decide)
  · rename_i enough
    obtain ⟨store, same⟩ := saved_of_passes started passes
    cases same
    split
    all_goals exact ⟨rfl, Nat.not_lt.mp enough, { settled with }, rfl,
      ⟨settled.incompleteData, rfl, small⟩, rfl, rfl, rfl⟩

theorem startDataHeader_passes
    (started : ctx.startDataHeader firmware keyCache data length = some (code, next))
    (passes : Passes code) :
    code = .success ∧ Settled flash lastClosed next ∧ next.state = .dataHeader ∧
      next.partitionLength = length - partitionSecondHeaderSize ∧
      next.Asks (partitionSecondHeaderSize + firstWordSize) 0 := by
  rw [startDataHeader] at started
  split at started
  · cases started
    exact absurd passes (by decide)
  split at started
  · cases started
    exact absurd passes (by decide)
  · obtain ⟨store, same⟩ := saved_of_passes started passes
    cases same
    exact ⟨rfl, { settled with },
      rfl, rfl, ⟨settled.incompleteData, rfl, dataHeaderSize_lt⟩, rfl, rfl, rfl⟩

theorem startFooter_passes
    (started : ctx.startFooter firmware keyCache data length = some (code, next))
    (passes : Passes code) :
    code = .success ∧ Settled flash lastClosed next ∧ next.state = .footer ∧
      next.Asks expectedSignatureSize 0 := by
  rw [startFooter] at started
  split at started
  · cases started
    exact absurd passes (by decide)
  rename_i isSize
  obtain rfl : length = expectedSignatureSize := not_not.mp isSize
  obtain ⟨store, same⟩ := saved_of_passes started passes
  change (if (if ctx.signature = none then firmware.malloc else ctx.signature) = none then _
    else _) = _ at same
  by_cases memory : (if ctx.signature = none then firmware.malloc else ctx.signature) = none
  · rw [if_pos memory] at same
    cases same
    exact absurd passes (by decide)
  · rw [if_neg memory] at same
    cases same
    exact ⟨rfl, { settled with },
      rfl, ⟨settled.incompleteData, rfl, expectedSignatureSize_lt⟩, rfl, rfl, rfl⟩

theorem handleHeaderState_passes
    (handled : ctx.handleHeaderState firmware keyCache data = some (code, next))
    (passes : Passes code) :
    code = .success ∧ Settled flash lastClosed next ∧ next.state = .generic1stPart ∧
      next.Asks headerFirstPartSize 0 := by
  rw [handleHeaderState] at handled
  split at handled
  · contradiction
  · rename_i refused checked
    cases handled
    rcases checkHeader_cases checked with isError | ⟨_, isOk, _⟩
    · rcases isError with isError | isError | isError <;>
        obtain rfl := Except.error.inj isError <;>
          exact absurd passes (by decide)
    · contradiction
  · obtain ⟨store, same⟩ := saved_of_passes handled passes
    cases same
    exact ⟨rfl, { settled with },
      rfl, ⟨settled.incompleteData, rfl, headerFirstPartSize_lt⟩, rfl, rfl, rfl⟩

end

structure Opened (flash : Flash) (lastClosed partition size : Nat) (ctx : UpgradeCtx) : Prop where
  flash : ctx.flash = flash
  lastClosed : ctx.psKeys.lastClosedPartition = lastClosed
  partitionHdl : ctx.partitionHdl = some partition
  partitionNum : ctx.partitionNum = partition
  state : ctx.state = .data
  asks : ctx.Asks size 0

variable {partition size : Nat}

theorem partitionClose_passes (open' : ctx.partitionHdl = some partition)
    (passes : Passes (ctx.partitionClose firmware).1) :
    ctx.partitionClose firmware = (.success, { ctx.savePsKeys { ctx.psKeys with
          lastClosedPartition := (ctx.partitionNum + 1) % 2 ^ 16 } with
        flash := ctx.flash ++ [.closed partition] }) := by
  rw [partitionClose, open'] at passes ⊢
  dsimp only at passes ⊢
  split at passes
  · have refused : ¬ Passes .partitionCloseFailedPsSpace := by decide
    exact absurd passes refused
  rename_i space
  split at passes
  · have refused : ¬ Passes .partitionCloseFailed := by decide
    exact absurd passes refused
  · rename_i closes
    rw [if_neg space, if_neg closes]

theorem finishPartition_passes (open' : ctx.partitionHdl = some partition)
    (number : ctx.partitionNum = partition) (small : partition < 16)
    (empty : ctx.incompleteData = []) (finished : ctx.finishPartition firmware = (code, next))
    (passes : Passes code) :
    code = .success ∧ Settled (ctx.flash ++ [.closed partition]) (partition + 1) next ∧
      next.state = .generic1stPart ∧ next.Asks headerFirstPartSize 0 := by
  rw [finishPartition] at finished
  dsimp only at finished
  split at finished
  · rename_i failed
    cases finished
    have closed := partitionClose_passes (by exact open') passes
    rw [closed] at failed
    contradiction
  · rename_i success
    have closed := partitionClose_passes (by exact open') (Or.inl (not_not.mp success))
    rw [closed] at finished
    cases finished
    refine ⟨rfl, ⟨rfl, ?_, rfl, empty⟩, rfl, ⟨empty, rfl, headerFirstPartSize_lt⟩, rfl, rfl, rfl⟩
    change (ctx.partitionNum + 1) % 2 ^ 16 = partition + 1
    omega

theorem sub32_eq {left right : Nat} (less : right ≤ left) (small : left < 2 ^ 32) :
    sub32 left right = left - right := by
  rw [sub32]
  omega

theorem asks_requestData (empty : ctx.incompleteData = []) (small : size < 2 ^ 32) (offset : Nat)
    (state : PartitionDataState) :
    Asks { ctx.requestData size offset with state := state } size offset :=
  ⟨⟨empty, rfl, small⟩, rfl, rfl, rfl⟩

section

variable {partition size : Nat} (open' : ctx.partitionHdl = some partition)
  (number : ctx.partitionNum = partition) (same : ctx.psKeys.lastClosedPartition = lastClosed)
  (empty : ctx.incompleteData = [])

include open' number same empty

theorem opened_requestData (small : size < 2 ^ 32) :
    Opened ctx.flash lastClosed partition size
      { ctx.requestData size 0 with state := .data } :=
  ⟨rfl, same, open', number, rfl, asks_requestData empty small 0 .data⟩

theorem startPartition_passes (length : ctx.partitionLength = size + firstWordSize)
    (small : size + firstWordSize < 2 ^ 32)
    (erased : firmware.sinkGetPosition ctx.flash partition = 0)
    (started : ctx.startPartition firmware partition = (code, next)) (passes : Passes code) :
    code = .success ∧ (0 < size ∧ Opened ctx.flash lastClosed partition size next ∨
        size = 0 ∧ next.state = .generic1stPart ∧
          next.Asks headerFirstPartSize (sub32 0 firstWordSize)) := by
  have rest : sub32 (sub32 (size + firstWordSize) 0) firstWordSize = size := by
    rw [sub32_eq (Nat.zero_le _) small, Nat.sub_zero, sub32_eq (Nat.le_add_left _ _) small,
      Nat.add_sub_cancel]
  rw [startPartition, erased, length, rest] at started
  dsimp only at started
  split at started
  · rename_i more
    cases started
    have positive : 0 < size := by
      rw [firstWordSize] at more
      omega
    have small' : size < 2 ^ 32 := by omega
    exact ⟨rfl, Or.inl ⟨positive, opened_requestData open' number same empty small'⟩⟩
  split at started
  · rename_i none
    split at started
    · rename_i failed
      cases started
      rw [partitionClose_passes open' passes] at failed
      exact absurd rfl failed
    · rename_i success
      rw [partitionClose_passes open' (Or.inl (not_not.mp success))] at started
      cases started
      have nothing : size = 0 := by
        rw [firstWordSize] at none
        omega
      exact ⟨rfl, Or.inr ⟨nothing, rfl, ⟨empty, rfl, headerFirstPartSize_lt⟩, rfl, rfl, rfl⟩⟩
  · cases started
    exact absurd passes (by decide)

end

theorem handlePartition_passes (settled : Settled flash lastClosed ctx)
    {partNum firstWord size : Nat}
    (valid : isValidPartitionNum partNum = true)
    (length : ctx.partitionLength = size + firstWordSize)
    (small : size + firstWordSize < 2 ^ 32)
    (erased : lastClosed ≤ partNum →
      firmware.sinkGetPosition (flash ++ [.opened partNum firstWord]) partNum = 0)
    (handled : ctx.handlePartition firmware partNum firstWord = (code, next))
    (passes : Passes code) :
    code = .success ∧
      (partNum < lastClosed ∧ Settled flash lastClosed next ∧ next.state = .generic1stPart ∧
          next.Asks headerFirstPartSize size ∨
        lastClosed ≤ partNum ∧ 0 < size ∧
          Opened (flash ++ [.opened partNum firstWord]) lastClosed partNum size next ∨
        size = 0 ∧ next.state = .generic1stPart ∧
          next.Asks headerFirstPartSize (sub32 0 firstWordSize)) := by
  have known : partNum < 16 := by
    rw [isValidPartitionNum, decide_eq_true_iff] at valid
    omega
  rw [handlePartition, if_neg (not_not.mpr known)] at handled
  obtain ⟨marked, isMarked⟩ : ∃ marked : UpgradeCtx,
      { ctx with partitionMap := ctx.partitionMap ||| 1 <<< partNum } = marked := ⟨_, rfl⟩
  have settled' : Settled flash lastClosed marked := by
    rw [← isMarked]
    exact { settled with }
  have length' : marked.partitionLength = size + firstWordSize := by
    rw [← isMarked]
    exact length
  have small' : size < 2 ^ 32 := by omega
  rw [isMarked] at handled
  dsimp only at handled
  rw [settled'.lastClosed, length', sub32_eq (Nat.le_add_left _ _) small,
    Nat.add_sub_cancel] at handled
  split at handled
  · rename_i done
    cases handled
    exact ⟨rfl, Or.inl ⟨done, { settled' with }, rfl,
      ⟨settled'.incompleteData, rfl, headerFirstPartSize_lt⟩,
      rfl, rfl, rfl⟩⟩
  rename_i here
  have above : lastClosed ≤ partNum := Nat.not_lt.mp here
  split at handled
  · cases handled
    exact absurd passes (by decide)
  rw [ensureOpen, if_pos settled'.closed, partitionOpen] at handled
  by_cases sink : firmware.streamGetSink marked.flash partNum firstWord = true
  · rw [if_pos sink] at handled
    have erased' : firmware.sinkGetPosition
        (marked.flash ++ [.opened partNum firstWord]) partNum = 0 := by
      rw [settled'.flash]
      exact erased above
    obtain ⟨success, cases⟩ := startPartition_passes (by exact rfl) (by exact rfl)
      (by exact settled'.lastClosed) (by exact settled'.incompleteData) (by exact length') small
      (by exact erased') handled passes
    refine ⟨success, ?_⟩
    rw [settled'.flash] at cases
    rcases cases with ⟨positive, opened⟩ | closed
    · exact Or.inr (Or.inl ⟨above, positive, opened⟩)
    · exact Or.inr (Or.inr closed)
  · rw [if_neg sink, settled'.closed] at handled
    cases handled
    exact absurd passes (by decide)

theorem handleDataHeaderState_passes (settled : Settled flash lastClosed ctx)
    {component : Component}
    (length : ctx.partitionLength = component.data.length + firstWordSize)
    (small : component.data.length + firstWordSize < 2 ^ 32)
    (erased : lastClosed ≤ component.partNum → firmware.sinkGetPosition
      (flash ++ [.opened component.partNum component.firstWord]) component.partNum = 0)
    (handled : ctx.handleDataHeaderState firmware keyCache component.dataHeader =
      some (code, next)) (passes : Passes code) :
    code = .success ∧ (component.partNum < lastClosed ∧ Settled flash lastClosed next ∧
          next.state = .generic1stPart ∧
          next.Asks headerFirstPartSize component.data.length ∨
        lastClosed ≤ component.partNum ∧ 0 < component.data.length ∧
          Opened (flash ++ [.opened component.partNum component.firstWord]) lastClosed
            component.partNum component.data.length next ∨
        component.data.length = 0 ∧ next.state = .generic1stPart ∧
          next.Asks headerFirstPartSize (sub32 0 firstWordSize)) := by
  have valid := component.valid
  have known : component.partNum < 2 ^ 16 := by
    rw [isValidPartitionNum, decide_eq_true_iff] at valid
    omega
  have partNum : get2Bytes component.dataHeader 2 = some component.partNum := by
    have read := (get2Bytes_append (put2Bytes component.sqifNum) _ 0).trans
      (get2Bytes_put2Bytes component.partNum (putFirstWord component.firstWord))
    rw [Nat.mod_eq_of_lt known, ← append_assoc] at read
    exact read
  have firstWord : getFirstWord component.dataHeader partitionSecondHeaderSize =
      some component.firstWord :=
    getFirstWord_putFirstWord component.firstWord_lt _
  rw [handleDataHeaderState, partNum, firstWord, if_neg (by exact Nat.lt_irrefl 8)] at handled
  split at handled
  · rename_i isPart isWord
    cases isPart
    cases isWord
    split at handled
    · cases handled
      exact absurd passes (by decide)
    split at handled
    · cases handled
      exact absurd passes (by decide)
    · obtain ⟨store, same⟩ := saved_of_passes handled passes
      have stored : Settled flash lastClosed (ctx.withStore store) :=
        { settled with }
      exact handlePartition_passes stored valid length small erased same passes
  · contradiction

section FirstParts

variable {length : Nat}

theorem handle_header (small : length < 2 ^ 32) (ctx : UpgradeCtx) :
    ctx.handleGeneric1stPartState firmware keyCache (headerID ++ put4Bytes length) =
      ctx.startHeader firmware keyCache (headerID ++ put4Bytes length) length := by
  have read : get4Bytes (headerID ++ put4Bytes length) idFieldSize = some length :=
    get4Bytes_behind headerID small
  have isHeader : idField (headerID ++ put4Bytes length) = idField headerID := rfl
  rw [handleGeneric1stPartState, if_neg (by exact Nat.lt_irrefl 12), read]
  dsimp only
  rw [if_pos isHeader]

theorem handle_partition (small : length < 2 ^ 32) (ctx : UpgradeCtx) :
    ctx.handleGeneric1stPartState firmware keyCache (partitionID ++ put4Bytes length) =
      ctx.startDataHeader firmware keyCache (partitionID ++ put4Bytes length) length := by
  have read : get4Bytes (partitionID ++ put4Bytes length) idFieldSize = some length :=
    get4Bytes_behind partitionID small
  have isPartition : idField (partitionID ++ put4Bytes length) = idField partitionID := rfl
  have noHeader : idField partitionID ≠ idField headerID := by decide
  have noCase : idField partitionID ≠ idField extCaseDfuFileHeader := by decide
  rw [handleGeneric1stPartState, if_neg (by exact Nat.lt_irrefl 12), read]
  dsimp only
  rw [isPartition, if_neg noHeader, if_neg (fun both => noCase both.2), if_pos rfl]

theorem handle_footer (small : length < 2 ^ 32) (ctx : UpgradeCtx) :
    ctx.handleGeneric1stPartState firmware keyCache (footerID ++ put4Bytes length) =
      ctx.startFooter firmware keyCache (footerID ++ put4Bytes length) length := by
  have read : get4Bytes (footerID ++ put4Bytes length) idFieldSize = some length :=
    get4Bytes_behind footerID small
  have isFooter : idField (footerID ++ put4Bytes length) = idField footerID := rfl
  have noHeader : idField footerID ≠ idField headerID := by decide
  have noCase : idField footerID ≠ idField extCaseDfuFileHeader := by decide
  have noPartition : idField footerID ≠ idField partitionID := by decide
  rw [handleGeneric1stPartState, if_neg (by exact Nat.lt_irrefl 12), read]
  dsimp only
  rw [isFooter, if_neg noHeader, if_neg (fun both => noCase both.2), if_neg noPartition, if_pos rfl]

theorem handle_unknown {firstWord start : List UInt8} (four : firstWord.length = 4)
    (begins : start.take 4 = partitionID.take 4 ∨ start.take 4 = footerID.take 4)
    (handled : ctx.handleGeneric1stPartState firmware keyCache (firstWord ++ start) =
      some (code, next)) : ¬ Passes code := by
  have unlike {id : List UInt8} (length : id.length = idFieldSize) (text : idField id = id)
      (noPartition : id.drop 4 ≠ partitionID.take 4) (noFooter : id.drop 4 ≠ footerID.take 4) :
      idField (firstWord ++ start) ≠ idField id := by
    intro same
    have all := take_of_idField length text same
    have behind : id.drop 4 = start.take 4 := by
      rw [← all, ← four, List.drop_take, List.drop_left, four]
      rfl
    rcases begins with isPartition | isFooter
    · exact noPartition (behind.trans isPartition)
    · exact noFooter (behind.trans isFooter)
  rw [handleGeneric1stPartState] at handled
  split at handled
  · cases handled
    decide
  split at handled
  · contradiction
  · rw [if_neg (unlike rfl rfl (by decide) (by decide)),
      if_neg (fun both => unlike rfl rfl (by decide) (by decide) both.2),
      if_neg (unlike rfl rfl (by decide) (by decide)),
      if_neg (unlike rfl rfl (by decide) (by decide))] at handled
    cases handled
    decide

end FirstParts

section Data

variable {before ctx : UpgradeCtx} {partition : Nat} {pre : List UInt8} {packets : Packets}
  {rounds : Nat} {start : Flash}

theorem partitionWriteLoop_done
    (done : partitionWriteLoop firmware partition rounds start data = some (flash, [])) :
    flash = start ++ data.map (.wrote partition) := by
  induction rounds generalizing start data with
  | zero =>
    rw [partitionWriteLoop] at done
    split at done
    · rename_i nothing
      cases done
      rw [nothing, List.map_nil, append_nil]
    · contradiction
  | succ rounds ih =>
    rw [partitionWriteLoop] at done
    split at done
    · rename_i nothing
      cases done
      rw [nothing, List.map_nil, append_nil]
    rename_i more
    dsimp only at done
    split at done
    · rw [ih done, append_assoc, ← List.map_append, List.take_append_drop]
    · exact absurd (Prod.mk.inj (Option.some.inj done)).2 more

theorem partitionWriteLoop_remaining {remaining : List UInt8}
    (wrote : partitionWriteLoop firmware partition rounds start data = some (flash, remaining)) :
    remaining.length ≤ data.length := by
  induction rounds generalizing start data with
  | zero =>
    rw [partitionWriteLoop] at wrote
    split at wrote
    · cases wrote
      exact Nat.zero_le _
    · contradiction
  | succ rounds ih =>
    rw [partitionWriteLoop] at wrote
    split at wrote
    · cases wrote
      exact Nat.zero_le _
    dsimp only at wrote
    split at wrote
    · exact Nat.le_trans (ih wrote) (by rw [List.length_drop]; exact Nat.sub_le _ _)
    · cases wrote
      exact Nat.le_refl _

theorem handleDataState_passes (open' : ctx.partitionHdl = some partition) {reqComplete : Bool}
    (handled : ctx.handleDataState firmware data reqComplete = some (code, next))
    (passes : Passes code) :
    (if reqComplete = true then
        (ctx.withFlash (ctx.flash ++ data.map (.wrote partition))).finishPartition firmware
      else (.success, ctx.withFlash (ctx.flash ++ data.map (.wrote partition)))) =
        (code, next) := by
  rw [handleDataState, partitionWrite, open'] at handled
  dsimp only at handled
  obtain ⟨⟨written, after⟩, wrote, same⟩ := Option.map_eq_some_iff.mp handled
  obtain ⟨⟨flash, remaining⟩, looped, same'⟩ := Option.map_eq_some_iff.mp wrote
  cases same'
  have less := partitionWriteLoop_remaining looped
  dsimp only at same
  split at same
  · cases same
    exact absurd passes (by decide)
  · rename_i all
    obtain rfl := List.eq_nil_of_length_eq_zero (show remaining.length = 0 by omega)
    rw [← partitionWriteLoop_done looped]
    exact same

theorem Written.parseAll_passes (written : Written before partition pre ctx)
    (waiting : before.Waiting) (state : before.state = .data)
    (open' : before.partitionHdl = some partition) (proper : packets.Proper) (some : packets ≠ [])
    (whole : pre.length + packets.block.length = before.totalReqSize)
    (parsed : ctx.parseAll firmware packets = Option.some (code, next)) (passes : Passes code) :
    ((before.receive before.totalReqSize).withFlash
      (before.flash ++ (pre ++ packets.block).map (.wrote partition))).finishPartition firmware =
        (code, next) := by
  induction packets generalizing ctx pre with
  | nil => contradiction
  | cons packet packets ih =>
    obtain ⟨keyCache, data⟩ := packet
    obtain ⟨length, filled, rest⟩ := proper_cons proper
    rw [block_cons, length_append] at whole
    have inside : pre.length + data.length ≤ before.totalReqSize := by omega
    have handled := written.parse_handle waiting state firmware keyCache inside
    rw [parseAll_cons, handled] at parsed
    obtain ⟨⟨codeFirst, after⟩, parsedFirst, parsedRest⟩ := Option.bind_eq_some_iff.mp parsed
    dsimp only at parsedRest
    have flash : before.flash ++ pre.map (.wrote partition) ++ data.map (.wrote partition) =
        before.flash ++ (pre ++ data).map (.wrote partition) := by
      rw [append_assoc, ← List.map_append]
    have passesFirst : Passes codeFirst := by
      by_cases first : codeFirst = .success
      · exact Or.inl first
      · rw [if_neg first] at parsedRest
        cases parsedRest
        exact passes
    have wrote := handleDataState_passes (by exact open') parsedFirst passesFirst
    by_cases last : packets = []
    · subst last
      have all : pre.length + data.length = before.totalReqSize := by
        rw [← whole]
        rfl
      have same : (codeFirst, after) = (code, next) := by
        by_cases first : codeFirst = .success
        · rw [if_pos first, UpgradeCtx.parseAll, ← first] at parsedRest
          exact Option.some.inj parsedRest
        · rw [if_neg first] at parsedRest
          exact Option.some.inj parsedRest
      have block : Packets.block [(keyCache, data)] = data := append_nil _
      rw [decide_eq_true all, if_pos rfl, all, same] at wrote
      rw [block, ← flash]
      exact wrote
    · have more := List.length_pos_iff.mpr (Packets.block_ne_nil rest last)
      rw [decide_eq_false (by omega), if_neg Bool.false_ne_true] at wrote
      cases wrote
      have written' : Written before partition (pre ++ data)
          ((before.receive (pre.length + data.length)).withFlash
            (before.flash ++ pre.map (.wrote partition) ++ data.map (.wrote partition))) := by
        intro size
        rw [length_append, ← receive_receive before (pre.length + data.length), flash]
        rfl
      rw [if_pos rfl] at parsedRest
      have ended := ih written' rest last (by rw [length_append]; omega) parsedRest
      rw [append_assoc] at ended
      exact ended

end Data

section Footers

variable {packets : Packets}

/-- A footer arrives, and is the last that is requested. -/
structure InFooter (flash : Flash) (ctx : UpgradeCtx) : Prop where
  flash : ctx.flash = flash
  state : ctx.state = .footer
  incompleteData : ctx.incompleteData = []
  newReqSize : ctx.newReqSize = 0

section

variable (inFooter : InFooter flash ctx)

include inFooter

theorem InFooter.finishFooter (reqComplete : Bool) :
    InFooter flash (ctx.finishFooter reqComplete).2 := by
  rw [UpgradeCtx.finishFooter]
  split <;> exact { inFooter with }

theorem InFooter.handleFooterState {reqComplete : Bool}
    (handled : ctx.handleFooterState firmware keyCache data reqComplete = some (code, next)) :
    InFooter flash next := by
  rw [UpgradeCtx.handleFooterState] at handled
  split at handled
  · have finished := inFooter.finishFooter reqComplete
    rw [Option.some.inj handled] at finished
    exact finished
  · rw [saveHeaderThen, saveHeader] at handled
    obtain ⟨⟨code', ctx'⟩, savedStore, same⟩ := Option.map_eq_some_iff.mp handled
    obtain ⟨⟨code'', store⟩, _, same'⟩ := Option.map_eq_some_iff.mp savedStore
    cases same'
    have stored : InFooter flash ((ctx.collectSignature data).withStore store) :=
      { inFooter with }
    dsimp only at same
    split at same
    · cases same
      exact stored
    · have finished := stored.finishFooter reqComplete
      rw [show ((ctx.collectSignature data).withStore store).finishFooter reqComplete =
        (code, next) from same] at finished
      exact finished

theorem InFooter.parse
    (parsed : ctx.parse firmware keyCache data = some (code, next)) : InFooter flash next := by
  have received : InFooter flash (ctx.receive data.length) :=
    { inFooter with }
  rw [UpgradeCtx.parse] at parsed
  split at parsed
  · cases parsed
    exact received
  rw [if_neg (not_not.mpr received.incompleteData), parseWhole, parsePart, received.state] at parsed
  split at parsed <;> exact received.handleFooterState parsed

theorem InFooter.parseAll
    (parsed : ctx.parseAll firmware packets = some (code, next)) : InFooter flash next := by
  induction packets generalizing ctx with
  | nil =>
    cases parsed
    exact inFooter
  | cons packet packets ih =>
    obtain ⟨keyCache, data⟩ := packet
    rw [parseAll_cons] at parsed
    obtain ⟨⟨codeFirst, after⟩, parsedFirst, parsedRest⟩ := Option.bind_eq_some_iff.mp parsed
    have inFooter' := inFooter.parse parsedFirst
    dsimp only at parsedRest
    split at parsedRest
    · exact ih inFooter' parsedRest
    · cases parsedRest
      exact inFooter'

end

end Footers

end UpgradeCtx

section Files

variable {firmware : Firmware} {file before after : List UInt8} {cut : Cut} {flash : Flash}
  {lastClosed position : Nat} {ctx last : UpgradeCtx}

structure UpgradeCtx.AwaitsPart (flash : Flash) (lastClosed : Nat) (before : List UInt8)
    (position : Nat) (ctx : UpgradeCtx) : Prop extends Settled flash lastClosed ctx where
  state : ctx.state = .generic1stPart
  asks : ∃ offset, ctx.Asks headerFirstPartSize offset
  start : ctx.nextStart position = before.length

theorem UpgradeCtx.Settled.received (settled : Settled flash lastClosed ctx) (size : Nat) :
    Settled flash lastClosed (ctx.getNextReqSize.2.receive size) :=
  { settled with }

theorem UpgradeCtx.Asks.nextStart {size offset : Nat} (asks : ctx.Asks size offset)
    (inside : position + offset < 2 ^ 32) : ctx.nextStart position = position + offset := by
  rw [UpgradeCtx.nextStart, asks.offset, Nat.mod_eq_of_lt inside]

theorem Completes.first_part (completes : Completes firmware file cut ctx position last)
    (awaits : AwaitsPart flash lastClosed before position ctx) {part : List UInt8}
    (length : part.length = headerFirstPartSize) (isFile : file = before ++ (part ++ after)) :
    ∃ keyCache code next,
      (ctx.getNextReqSize.2.receive part.length).handleGeneric1stPartState firmware keyCache part =
        some (code, next) ∧
      (code = .success ∧ Completes firmware file cut next (before ++ part).length last ∨
        code = .dataTransferComplete ∧ next = last) := by
  obtain ⟨offset, asks⟩ := awaits.asks
  rw [← length] at asks
  have filled : part ≠ [] := by
    rintro rfl
    contradiction
  obtain ⟨keyCache, code, next, parsed, rest⟩ :=
    completes.header_part asks (Or.inl awaits.state) filled isFile awaits.start
  have state : (ctx.getNextReqSize.2.receive part.length).state = .generic1stPart := awaits.state
  rw [parseWhole, state] at parsed
  rw [length_append]
  exact ⟨keyCache, code, next, parsed, rest⟩

section

variable {code : HostErrorCode} {next : UpgradeCtx} {goesOn : Prop}
  (rest : code = .success ∧ goesOn ∨ code = .dataTransferComplete ∧ next = last)

include rest

theorem passes_of_rest : Passes code := by
  rcases rest with ⟨success, _⟩ | ⟨complete, _⟩
  · exact Or.inl success
  · exact Or.inr complete

theorem goesOn_of_rest (success : code = .success) : goesOn := by
  rcases rest with ⟨_, on⟩ | ⟨complete, _⟩
  · exact on
  · exact absurd (complete.symm.trans success) complete_ne_success

end

variable {signature : List UInt8}

theorem Completes.footer (completes : Completes firmware file cut ctx position last)
    (awaits : AwaitsPart flash lastClosed before position ctx)
    (length : signature.length = expectedSignatureSize)
    (isFile : file = before ++ (footerID ++ put4Bytes expectedSignatureSize ++ signature))
    (small : file.length < 2 ^ 32) : last.flash = flash := by
  obtain ⟨keyCache, code, next, handled, rest⟩ := completes.first_part awaits rfl isFile
  rw [handle_footer expectedSignatureSize_lt] at handled
  obtain ⟨success, settled, state, asks⟩ :=
    startFooter_passes (awaits.toSettled.received _) handled (passes_of_rest rest)
  have goesOn := goesOn_of_rest rest success
  obtain ⟨footerFirst, isFirst⟩ : ∃ first, footerID ++ put4Bytes expectedSignatureSize = first :=
    ⟨_, rfl⟩
  rw [isFirst] at goesOn isFile
  have inside : (before ++ footerFirst).length + 0 < 2 ^ 32 := by
    rw [isFile, ← append_assoc, length_append] at small
    omega
  have sent : offered file (next.nextStart (before ++ footerFirst).length) next.newReqSize =
      some signature := by
    have filled : signature ≠ [] := by
      rintro rfl
      contradiction
    have all := offered_append (before ++ footerFirst) [] filled
    rw [append_nil, append_assoc] at all
    rw [asks.nextStart inside, asks.newReqSize, Nat.add_zero, ← length, isFile]
    exact all
  obtain ⟨index, codeLast, ended, parsed, restLast⟩ := goesOn.block sent
  have inFooter : InFooter flash next.getNextReqSize.2 :=
    ⟨settled.flash, state, settled.incompleteData, rfl⟩
  have inFooter' := inFooter.parseAll parsed
  rcases restLast with ⟨_, more⟩ | ⟨_, rfl⟩
  · exact absurd inFooter'.newReqSize more.asks_nothing
  · exact inFooter'.flash

def Component.next (component : Component) (flash : Flash) (lastClosed : Nat) : Flash × Nat :=
  if component.partNum < lastClosed then (flash, lastClosed)
  else (flash ++ component.events, component.partNum + 1)

theorem Component.length_firstPart (component : Component) :
    component.firstPart.length = headerFirstPartSize := rfl

theorem Component.length_dataHeader (component : Component) :
    component.dataHeader.length = partitionSecondHeaderSize + firstWordSize := rfl

theorem Completes.data_part {partition : Nat} {data : List UInt8}
    (completes : Completes firmware file cut ctx before.length last)
    (opened : Opened flash lastClosed partition data.length ctx) (known : partition < 16)
    (some : data ≠ []) (isFile : file = before ++ (data ++ after)) (small : file.length < 2 ^ 32) :
    ∃ next, Completes firmware file cut next (before ++ data).length last ∧
      AwaitsPart (flash ++ (data.map (.wrote partition) ++ [.closed partition])) (partition + 1)
        (before ++ data) (before ++ data).length next := by
  have inside : before.length + data.length < 2 ^ 32 := by
    rw [isFile, length_append, length_append] at small
    omega
  have start : ctx.nextStart before.length = before.length := opened.asks.nextStart (by omega)
  have sent : offered file (ctx.nextStart before.length) ctx.newReqSize = Option.some data := by
    rw [start, opened.asks.newReqSize, isFile]
    exact offered_append _ _ some
  obtain ⟨index, code, next, parsed, rest⟩ := completes.block sent
  rw [start, opened.asks.newReqSize, ← length_append] at rest
  have passes := passes_of_rest rest
  have waiting := opened.asks.waiting
  have waiting' : ctx.getNextReqSize.2.Waiting :=
    { waiting with }
  have joined := cut.block index data
  have filled : cut.packets index data ≠ [] := by
    intro nothing
    rw [nothing] at joined
    exact some joined.symm
  have whole : ([] : List UInt8).length + (cut.packets index data).block.length =
      ctx.getNextReqSize.2.totalReqSize := by
    rw [List.length_nil, Nat.zero_add, joined]
    exact opened.asks.totalReqSize.symm
  have finished := (written_nil ctx.getNextReqSize.2 partition).parseAll_passes waiting'
    opened.state opened.partitionHdl (cut.proper index data) filled whole parsed passes
  obtain ⟨success, settled, state, asks⟩ := finishPartition_passes (by exact opened.partitionHdl)
    (by exact opened.partitionNum) known (by exact waiting.incompleteData) finished passes
  have wrote : (((ctx.getNextReqSize.2.receive ctx.getNextReqSize.2.totalReqSize).withFlash
      (ctx.getNextReqSize.2.flash ++ ([] ++ (cut.packets index data).block).map
        (.wrote partition))).flash ++ [.closed partition]) =
      flash ++ (data.map (.wrote partition) ++ [.closed partition]) := by
    rw [joined, nil_append, ← append_assoc, ← opened.flash]
    rfl
  rw [wrote] at settled
  refine ⟨next, goesOn_of_rest rest success, settled, state, ⟨0, asks⟩, ?_⟩
  exact asks.nextStart (by rw [length_append]; exact inside)

theorem Completes.not_behind_nothing {firstWord : List UInt8} (four : firstWord.length = 4)
    (completes : Completes firmware file cut ctx (before ++ firstWord).length last)
    (state : ctx.state = .generic1stPart)
    (asks : ctx.Asks headerFirstPartSize (sub32 0 firstWordSize))
    (isFile : file = before ++ (firstWord ++ after)) (small : file.length < 2 ^ 32)
    (begins : after.take 4 = partitionID.take 4 ∨ after.take 4 = footerID.take 4)
    (enough : headerFirstPartSize ≤ after.length) : False := by
  obtain ⟨part, isPart⟩ : ∃ part, firstWord ++ after.take 8 = part := ⟨_, rfl⟩
  rw [headerFirstPartSize] at enough
  have length : part.length = headerFirstPartSize := by
    rw [← isPart, length_append, List.length_take, four, headerFirstPartSize]
    omega
  have filled : part ≠ [] := by
    rintro rfl
    contradiction
  have isFile' : file = before ++ (part ++ after.drop 8) := by
    rw [isFile, ← isPart, append_assoc, List.take_append_drop]
  have start : ctx.nextStart (before ++ firstWord).length = before.length := by
    have inside : before.length < 2 ^ 32 := by
      rw [isFile, length_append] at small
      omega
    have back : sub32 0 firstWordSize = 2 ^ 32 - 4 := by decide
    rw [UpgradeCtx.nextStart, asks.offset, back, length_append, four]
    omega
  rw [← length] at asks
  obtain ⟨keyCache, code, next, parsed, rest⟩ :=
    completes.header_part asks (Or.inl state) filled isFile' start
  have state' : (ctx.getNextReqSize.2.receive part.length).state = .generic1stPart := state
  rw [parseWhole, state', ← isPart] at parsed
  refine handle_unknown four ?_ parsed (passes_of_rest rest)
  rw [List.take_take]
  exact begins

theorem Completes.component {component : Component}
    (completes : Completes firmware file cut ctx position last)
    (awaits : AwaitsPart flash lastClosed before position ctx)
    (isFile : file = before ++ (component.bytes ++ after)) (small : file.length < 2 ^ 32)
    (begins : after.take 4 = partitionID.take 4 ∨ after.take 4 = footerID.take 4)
    (enough : headerFirstPartSize ≤ after.length)
    (erased : lastClosed ≤ component.partNum → firmware.sinkGetPosition
      (flash ++ [.opened component.partNum component.firstWord]) component.partNum = 0) :
    ∃ ctx' position', Completes firmware file cut ctx' position' last ∧
      AwaitsPart (component.next flash lastClosed).1 (component.next flash lastClosed).2
        (before ++ component.bytes) position' ctx' := by
  have size : before.length + (12 + (8 + component.data.length)) + after.length < 2 ^ 32 := by
    rw [isFile, length_append, length_append, Component.bytes, length_append,
      length_append, component.length_firstPart, component.length_dataHeader] at small
    rw [headerFirstPartSize, partitionSecondHeaderSize, firstWordSize] at small
    omega
  -- The identifier and the length.
  have isFile₁ : file = before ++ (component.firstPart ++
      (component.dataHeader ++ component.data ++ after)) := by
    rw [isFile, Component.bytes, append_assoc]
  obtain ⟨keyCache₁, code₁, ctx₁, handled₁, rest₁⟩ :=
    completes.first_part awaits component.length_firstPart isFile₁
  have lengthSmall : component.data.length + 8 < 2 ^ 32 := by omega
  rw [Component.firstPart, handle_partition lengthSmall] at handled₁
  obtain ⟨success₁, settled₁, state₁, partitionLength, asks₁⟩ :=
    startDataHeader_passes (awaits.toSettled.received _) handled₁ (passes_of_rest rest₁)
  have goesOn₁ := goesOn_of_rest rest₁ success₁
  -- The rest of the header.
  have position₁ : (before ++ component.firstPart).length = before.length + 12 := by
    rw [length_append, component.length_firstPart, headerFirstPartSize]
  have isFile₂ : file = before ++ component.firstPart ++ (component.dataHeader ++
      (component.data ++ after)) := by
    rw [isFile₁, append_assoc, append_assoc]
  have start₁ : ctx₁.nextStart (before ++ component.firstPart).length =
      (before ++ component.firstPart).length :=
    asks₁.nextStart (by omega)
  have asks₁' : ctx₁.Asks component.dataHeader.length 0 := asks₁
  obtain ⟨keyCache₂, code₂, ctx₂, parsed₂, rest₂⟩ :=
    goesOn₁.header_part asks₁' (Or.inr (Or.inr state₁)) (List.cons_ne_nil _ _) isFile₂ start₁
  have state₁' : (ctx₁.getNextReqSize.2.receive component.dataHeader.length).state =
      .dataHeader := state₁
  rw [parseWhole, state₁'] at parsed₂
  have partitionLength' : ctx₁.partitionLength = component.data.length + firstWordSize := by
    rw [partitionLength, partitionSecondHeaderSize, firstWordSize]
    omega
  obtain ⟨success₂, outcome⟩ := handleDataHeaderState_passes (settled₁.received _)
    (by exact partitionLength') (by rw [firstWordSize]; omega) erased parsed₂ (passes_of_rest rest₂)
  have goesOn₂ := goesOn_of_rest rest₂ success₂
  rw [← length_append] at goesOn₂
  have position₂ : (before ++ component.firstPart ++ component.dataHeader).length =
      before.length + 20 := by
    rw [length_append, position₁, component.length_dataHeader, partitionSecondHeaderSize,
      firstWordSize]
  have isFile₃ : file = before ++ component.firstPart ++ component.dataHeader ++
      (component.data ++ after) := by
    rw [isFile₂, append_assoc (before ++ component.firstPart)]
  have whole : before ++ component.firstPart ++ component.dataHeader ++ component.data =
      before ++ component.bytes := by
    rw [Component.bytes, append_assoc, append_assoc]
  rw [← whole]
  rcases outcome with ⟨skipped, settled, state, asks⟩ | ⟨above, positive, opened⟩ |
    ⟨nothing, state, asks⟩
  · refine ⟨ctx₂, _, goesOn₂, ?_⟩
    rw [Component.next, if_pos skipped]
    refine ⟨settled, state, ⟨_, asks⟩, ?_⟩
    rw [asks.nextStart (by omega)]
    exact List.length_append.symm
  · have filled : component.data ≠ [] := List.ne_nil_of_length_pos positive
    have valid := component.valid
    have known : component.partNum < 16 := by
      rw [isValidPartitionNum, decide_eq_true_iff] at valid
      omega
    obtain ⟨next, goesOn, awaits'⟩ := goesOn₂.data_part opened known filled isFile₃ small
    refine ⟨next, _, goesOn, ?_⟩
    rw [Component.next, if_neg (Nat.not_lt.mpr above), Component.events]
    rw [append_assoc] at awaits'
    exact awaits'
  · have isHeader : component.dataHeader = put2Bytes component.sqifNum ++
        put2Bytes component.partNum ++ putFirstWord component.firstWord := rfl
    rw [List.eq_nil_of_length_eq_zero nothing, nil_append, isHeader, ← append_assoc,
      append_assoc] at isFile₃
    rw [isHeader, ← append_assoc] at goesOn₂
    exact (goesOn₂.not_behind_nothing rfl state asks isFile₃ small begins enough).elim

/-- The components that are written: those with a number above all that were written before. -/
def taken : Nat → List Component → List Component
  | _, [] => []
  | lastClosed, component :: components =>
      if component.partNum < lastClosed then taken lastClosed components
      else component :: taken (component.partNum + 1) components

theorem taken_sublist (lastClosed : Nat) (components : List Component) :
    (taken lastClosed components).Sublist components := by
  induction components generalizing lastClosed with
  | nil => exact List.Sublist.refl _
  | cons component components ih =>
    rw [taken]
    split
    · exact (ih lastClosed).cons component
    · exact (ih _).cons_cons component

theorem taken_eq_self (lastClosed : Nat) (components : List Component) :
    taken lastClosed components = components ↔
      (∀ component ∈ components, lastClosed ≤ component.partNum) ∧
        components.Pairwise fun first second => first.partNum < second.partNum := by
  induction components generalizing lastClosed with
  | nil => exact ⟨fun _ => ⟨fun _ member => absurd member List.not_mem_nil, List.Pairwise.nil⟩,
      fun _ => rfl⟩
  | cons component components ih =>
    rw [taken, List.forall_mem_cons, List.pairwise_cons]
    split
    · rename_i skipped
      refine ⟨fun same => ?_, fun all => absurd all.1.1 (Nat.not_le.mpr skipped)⟩
      have shorter := (taken_sublist lastClosed components).length_le
      rw [same, length_cons] at shorter
      exact absurd shorter (Nat.not_succ_le_self _)
    · rename_i above
      rw [List.cons.injEq, ih]
      constructor
      · rintro ⟨_, behind, increasing⟩
        refine ⟨⟨Nat.not_lt.mp above, fun other member => ?_⟩, behind, increasing⟩
        have := behind other member
        omega
      · rintro ⟨_, behind, increasing⟩
        exact ⟨rfl, behind, increasing⟩

theorem eq_of_events_sublist {some all : List Component} (part : some.Sublist all)
    (written : (all.flatMap Component.events).Sublist (some.flatMap Component.events)) :
    some = all := by
  have shorter : (some.flatMap Component.events).length + all.length ≤
      (all.flatMap Component.events).length + some.length := by
    clear written
    induction part with
    | slnil => exact Nat.le_refl _
    | cons component _ ih =>
      rw [flatMap_cons, length_append, length_cons, Component.events, length_cons]
      omega
    | cons_cons component _ ih =>
      rw [flatMap_cons, flatMap_cons, length_append, length_append, length_cons, length_cons]
      omega
  have longer := written.length_le
  exact part.eq_of_length_le (by omega)

/-- From some place between components on, those with numbers above all before are written. -/
theorem Completes.components {components : List Component}
    (completes : Completes firmware file cut ctx position last)
    (awaits : AwaitsPart flash lastClosed before position ctx)
    (length : signature.length = expectedSignatureSize)
    (isFile : file = before ++ (components.flatMap Component.bytes ++
      (footerID ++ put4Bytes expectedSignatureSize ++ signature))) (small : file.length < 2 ^ 32)
    (erased : firmware.Erased)
    (fresh : ∀ partition byte, lastClosed ≤ partition → .wrote partition byte ∉ flash) :
    last.flash = flash ++ (taken lastClosed components).flatMap Component.events := by
  induction components generalizing flash lastClosed before ctx position with
  | nil =>
    rw [taken, List.flatMap_nil, append_nil]
    exact completes.footer awaits length isFile small
  | cons component components ih =>
    obtain ⟨after, isAfter⟩ : ∃ after, components.flatMap Component.bytes ++
        (footerID ++ put4Bytes expectedSignatureSize ++ signature) = after := ⟨_, rfl⟩
    have isFile' : file = before ++ (component.bytes ++ after) := by
      rw [isFile, flatMap_cons, append_assoc, isAfter]
    have begins : after.take 4 = partitionID.take 4 ∨ after.take 4 = footerID.take 4 := by
      rw [← isAfter]
      cases components with
      | nil => exact Or.inr rfl
      | cons next components => exact Or.inl rfl
    have enough : headerFirstPartSize ≤ after.length := by
      have all : (footerID ++ put4Bytes expectedSignatureSize ++ signature).length =
          headerFirstPartSize + signature.length := length_append
      rw [← isAfter, length_append, all]
      omega
    obtain ⟨ctx', position', completes', awaits'⟩ := completes.component awaits isFile' small begins
      enough (fun above => erased flash _ _ fun byte => fresh _ byte above)
    have isFileRest : file = before ++ component.bytes ++ (components.flatMap Component.bytes ++
        (footerID ++ put4Bytes expectedSignatureSize ++ signature)) := by
      rw [isFile', ← isAfter]
      exact (append_assoc _ _ _).symm
    rw [taken]
    rw [Component.next] at awaits'
    by_cases skipped : component.partNum < lastClosed
    · rw [if_pos skipped] at awaits' ⊢
      exact ih completes' awaits' isFileRest fresh
    · rw [if_neg skipped] at awaits' ⊢
      rw [flatMap_cons, ← append_assoc]
      refine ih completes' awaits' isFileRest fun partition byte above => ?_
      rw [List.mem_append, not_or]
      refine ⟨fresh partition byte (by omega), fun member => ?_⟩
      rw [Component.events, List.mem_cons, List.mem_append, List.mem_singleton, List.mem_map]
        at member
      rcases member with isOpened | ⟨other, _, isWrote⟩ | isClosed
      · contradiction
      · obtain ⟨rfl, _⟩ := FlashEvent.wrote.inj isWrote
        omega
      · contradiction

theorem Completes.main_header {header : List UInt8}
    (completes : Completes firmware file cut ctx position last)
    (awaits : AwaitsPart flash lastClosed [] position ctx)
    (isFile : file = headerID ++ put4Bytes header.length ++ (header ++ after))
    (small : file.length < 2 ^ 32) :
    ∃ ctx', Completes firmware file cut ctx'
        (headerID ++ put4Bytes header.length ++ header).length last ∧
      AwaitsPart flash lastClosed (headerID ++ put4Bytes header.length ++ header)
        (headerID ++ put4Bytes header.length ++ header).length ctx' := by
  obtain ⟨first, isFirst⟩ : ∃ first, headerID ++ put4Bytes header.length = first := ⟨_, rfl⟩
  have firstLength : first.length = headerFirstPartSize := by
    rw [← isFirst]
    rfl
  rw [isFirst] at isFile ⊢
  have size : first.length + header.length < 2 ^ 32 := by
    rw [isFile, length_append, length_append] at small
    omega
  obtain ⟨keyCache, code, next, handled, rest⟩ := completes.first_part awaits firstLength isFile
  rw [← isFirst, handle_header (by omega)] at handled
  obtain ⟨success, enough, settled, state, asks⟩ :=
    startHeader_passes (awaits.toSettled.received _) (by omega) handled (passes_of_rest rest)
  have goesOn := goesOn_of_rest rest success
  rw [nil_append] at goesOn
  have filled : header ≠ [] := by
    rintro rfl
    exact absurd enough (by decide)
  obtain ⟨keyCache', code', next', parsed', rest'⟩ := goesOn.header_part asks
    (Or.inr (Or.inl state)) filled isFile (asks.nextStart (by omega))
  have state' : (next.getNextReqSize.2.receive header.length).state = .header := state
  rw [parseWhole, state'] at parsed'
  obtain ⟨success', settled', state', asks'⟩ :=
    handleHeaderState_passes (settled.received _) parsed' (passes_of_rest rest')
  have goesOn' := goesOn_of_rest rest' success'
  rw [← length_append] at goesOn' size
  exact ⟨next', goesOn', settled', state', ⟨0, asks'⟩, asks'.nextStart size⟩

section

variable (erased : firmware.Erased) {device : UpgradeCtx}
  (blank : device.flash = []) (fresh : device.psKeys.lastClosedPartition = 0)
  {file : UpgradeFile} (small : file.bytes.length < 2 ^ 32) {blocks : Nat}
  (complete : transfer firmware file.bytes cut blocks 0 0 device.partitionDataInit =
    some (.dataTransferComplete, last))

include erased blank fresh small complete

theorem flash_of_complete : last.flash = (taken 0 file.components).flatMap Component.events := by
  have completes : Completes firmware file.bytes cut device.partitionDataInit 0 last :=
    ⟨blocks, 0, complete⟩
  have awaits : AwaitsPart [] 0 [] 0 device.partitionDataInit :=
    ⟨⟨blank, fresh, rfl, rfl⟩, rfl, ⟨0, ⟨rfl, rfl, headerFirstPartSize_lt⟩, rfl, rfl, rfl⟩, rfl⟩
  obtain ⟨ctx, completes', awaits'⟩ := completes.main_header awaits rfl small
  have isFile : file.bytes = headerID ++ put4Bytes file.header.length ++ file.header ++
      (file.components.flatMap Component.bytes ++
        (footerID ++ put4Bytes expectedSignatureSize ++ file.signature)) := by
    rw [UpgradeFile.bytes, UpgradeFile.footer, append_assoc _ file.header]
  exact completes'.components awaits' file.signature_length isFile small erased
    fun _ _ _ => List.not_mem_nil

/-- A complete transfer has written all partitions, in order, if and only if their numbers
increase. -/
theorem complete_writes_iff :
    (file.components.flatMap Component.events).Sublist last.flash ↔
      file.components.Pairwise fun first second => first.partNum < second.partNum := by
  have flash := flash_of_complete erased blank fresh small complete
  have increasing := taken_eq_self 0 file.components
  rw [flash]
  constructor
  · intro all
    exact (increasing.mp (eq_of_events_sublist (taken_sublist 0 file.components) all)).2
  · intro increase
    rw [increasing.mpr ⟨fun _ _ => Nat.zero_le _, increase⟩]

end

def plainComponent (partNum : Nat) (valid : isValidPartitionNum partNum = true) : Component :=
  ⟨0, partNum, 0, [1, 2], Nat.two_pow_pos 16, valid, Nat.two_pow_pos 32⟩

def plainFile (components : List Component) : UpgradeFile where
  header := List.replicate 8 65 ++ [0, 2, 0, 0, 0, 1, 0, 1, 0, 0, 0, 0, 0, 0, 0, 1]
  components := components
  signature := List.replicate expectedSignatureSize 0
  signature_length := List.length_replicate

theorem erased_plainFirmware : plainFirmware.Erased := fun _ _ _ _ => rfl

theorem complete_writes_iff_increasing :
    ∃ last, transfer plainFirmware (plainFile [plainComponent 3 rfl, plainComponent 5 rfl]).bytes
        Cut.whole 10 0 0 plainDevice.partitionDataInit = some (.dataTransferComplete, last) ∧
      ([plainComponent 3 rfl, plainComponent 5 rfl].flatMap Component.events).Sublist
        last.flash := by
  have complete : (transfer plainFirmware
      (plainFile [plainComponent 3 rfl, plainComponent 5 rfl]).bytes Cut.whole 10 0 0
        plainDevice.partitionDataInit).map Prod.fst = some .dataTransferComplete := by
    decide +kernel
  obtain ⟨⟨code, last⟩, transferred, rfl⟩ := Option.map_eq_some_iff.mp complete
  refine ⟨last, transferred, ?_⟩
  exact (complete_writes_iff erased_plainFirmware rfl rfl (by decide +kernel) transferred).mpr
    (by decide)

/-- Behind partition 5, partition 3 is skipped. -/
theorem lower_partition_skipped :
    ¬ ∀ (file : UpgradeFile) (blocks : Nat) (last : UpgradeCtx),
      transfer plainFirmware file.bytes Cut.whole blocks 0 0 plainDevice.partitionDataInit =
        some (.dataTransferComplete, last) →
      (file.components.flatMap Component.events).Sublist last.flash := by
  intro all
  have skipped : (transfer plainFirmware
      (plainFile [plainComponent 5 rfl, plainComponent 3 rfl]).bytes Cut.whole 10 0 0
        plainDevice.partitionDataInit).map (fun answer => (answer.1, answer.2.flash)) =
      some (.dataTransferComplete, (plainComponent 5 rfl).events) := by
    decide +kernel
  obtain ⟨⟨code, last⟩, transferred, same⟩ := Option.map_eq_some_iff.mp skipped
  obtain ⟨rfl, flash⟩ := Prod.mk.inj same
  have shorter := (all _ _ _ transferred).length_le
  dsimp only at flash
  rw [flash] at shorter
  exact absurd shorter (by decide)

end Files

end HeadsetAdk.Upgrade
