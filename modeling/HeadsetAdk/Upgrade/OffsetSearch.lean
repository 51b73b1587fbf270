import HeadsetAdk.Upgrade.CompleteTransfer
import Mathlib.Data.List.Chain

/-! # The search for an offset of the file -/

namespace HeadsetAdk.Upgrade

open List (append_assoc flatMap_cons length_append flatMap_nil length_nil mem_cons_self cons_append
  length_cons)
open Option (bind_some map_some)
open PartitionDataState (noConfusion)

/-- `upgrade_reboot_handler_context_t`, with the fields about the keys together. -/
structure OffsetSearch where
  keys : RebootHandlerContext
  totalFileOffset : Nat
  expectedOffset : Nat
  partitionLen : Nat
  firstWord : Nat
  partOffset : Nat
  partNum : Nat
  state : PartitionDataState

structure PartitionState where
  pskey : Nat
  pskeyOffset : Nat
  state : PartitionDataState
  totalFileOffset : Nat
  partitionLen : Nat
  firstWord : Nat
  partNum : Nat
  partOffset : Nat
  deriving DecidableEq, Repr

def maxDfuFileComponents : Nat := 1000

structure SearchDevice where
  psKeys : PsKeys
  lastClosedPartition : Nat
  partitionOpen : Nat → Nat → Option Nat

namespace OffsetSearch

def enterPart (buff : List UInt8) (context : OffsetSearch) : Bool × OffsetSearch :=
  if idField buff = idField headerID then (true, { context with state := .header })
  else if idField buff = idField partitionID then (true, { context with state := .dataHeader })
  else if idField buff = idField footerID then (false, { context with state := .footer })
  else (true, context)

def handleGeneric1stPart (device : SearchDevice) (context : OffsetSearch) :
    Option (Bool × OffsetSearch) :=
  (context.keys.readHeaderPskey device.psKeys headerFirstPartSize).bind
    fun (successful, buff, keys) =>
      if successful = false then some (false, { context with keys := keys })
      else
        (get4Bytes buff idFieldSize).map fun length =>
          enterPart buff
            { context with
              keys := keys
              totalFileOffset := (context.totalFileOffset + headerFirstPartSize) % 2 ^ 32
              partitionLen := length }

/-- `upgradeRebootHandlerHandleHeader`.  The size that is read is a `uint16`. -/
def handleHeader (device : SearchDevice) (context : OffsetSearch) :
    Option (Bool × OffsetSearch) :=
  (context.keys.readHeaderPskey device.psKeys (context.partitionLen % 2 ^ 16)).map
    fun (successful, _, keys) =>
      if successful = false then (false, { context with keys := keys })
      else
        (true, { context with
            keys := keys
            totalFileOffset := (context.totalFileOffset + context.partitionLen) % 2 ^ 32
            state := .generic1stPart })

def handlePartitionHeader (device : SearchDevice) (context : OffsetSearch) :
    Option (Bool × OffsetSearch) :=
  (context.keys.readHeaderPskey device.psKeys (partitionSecondHeaderSize + firstWordSize)).bind
    fun (successful, buff, keys) =>
      if successful = false then some (false, { context with keys := keys })
      else
        match get2Bytes buff 2, getFirstWord buff partitionSecondHeaderSize with
        | some partNum, some firstWord =>
            some (true, { context with
                keys := keys
                totalFileOffset := (context.totalFileOffset +
                  (partitionSecondHeaderSize + firstWordSize)) % 2 ^ 32
                partitionLen :=
                  sub32 context.partitionLen (partitionSecondHeaderSize + firstWordSize)
                partNum := partNum
                firstWord := firstWord
                state := .data })
        | _, _ => none

/-- The end of `upgradeRebootHandlerHandlePartitionData`, for a partition that is skipped. -/
def skipPartition (context : OffsetSearch) : OffsetSearch :=
  { context with
    totalFileOffset := (context.totalFileOffset + context.partitionLen) % 2 ^ 32
    state := .generic1stPart }

def handlePartitionData (device : SearchDevice) (context : OffsetSearch) :
    Option (Bool × OffsetSearch) :=
  if context.expectedOffset ≠ 0 then
    if context.expectedOffset < (context.totalFileOffset + context.partitionLen) % 2 ^ 32 then
      some (true, { context with
          partOffset := sub32 context.expectedOffset context.totalFileOffset
          totalFileOffset := context.expectedOffset })
    else some (true, context.skipPartition)
  else if context.partNum ≥ device.lastClosedPartition then
    -- A partition that cannot be opened ends in `Panic`.
    (device.partitionOpen context.partNum context.firstWord).map fun partOffset =>
      (false, { context with
          partOffset := partOffset
          totalFileOffset := (context.totalFileOffset + partOffset) % 2 ^ 32 })
  else some (true, context.skipPartition)

def processNextStep (device : SearchDevice) (context : OffsetSearch) :
    Option (Bool × OffsetSearch) :=
  match context.state with
  | .generic1stPart => context.handleGeneric1stPart device
  | .header => context.handleHeader device
  | .dataHeader => context.handlePartitionHeader device
  | .data => context.handlePartitionData device
  | .footer => some (false, context)

/-- The loop over the parts of the file, with `cnt`, which ends in `Panic` at zero. -/
def search (device : SearchDevice) : Nat → OffsetSearch → Option OffsetSearch
  | 0, _ => none
  | cnt + 1, context =>
      (context.processNextStep device).bind fun (more, context) =>
        if more = true ∧ context.totalFileOffset < context.expectedOffset then
          search device cnt context
        else some context

def found (context : OffsetSearch) : PartitionState :=
  let (pskey, pskeyOffset) :=
    if context.keys.pskeyOffset = pskeyMaxStorageLengthInBytes then (context.keys.pskey + 1, 0)
    else (context.keys.pskey, context.keys.pskeyOffset)
  { context with
    pskey := pskey - 1
    pskeyOffset := pskeyOffset
    partOffset := context.partOffset }

def start (reqOffset : Nat) : OffsetSearch where
  keys := freshContext
  totalFileOffset := 0
  expectedOffset := reqOffset
  partitionLen := 0
  firstWord := 0
  partOffset := 0
  partNum := 0
  state := .generic1stPart

end OffsetSearch

/-- `UpgradeRebootHandlerGetPartitionStateFromDfuFileOffset`: the state, if the file is stored up
to the offset. -/
def getPartitionStateFromDfuFileOffset (device : SearchDevice) (reqOffset : Nat) :
    Option (Option PartitionState) :=
  (OffsetSearch.search device maxDfuFileComponents (.start reqOffset)).map fun context =>
    if context.totalFileOffset < reqOffset then none else some context.found

/-- The parts of upgrade files, each of which is requested for itself. -/
inductive Part
  | mainFirst (header : List UInt8)
  | mainHeader (header : List UInt8)
  | partitionFirst (component : Component)
  | partitionHeader (component : Component)
  | partitionData (component : Component)
  | footerFirst
  | signature (bytes : List UInt8)

namespace Part

def state : Part → PartitionDataState
  | .mainFirst _ => .generic1stPart
  | .mainHeader _ => .header
  | .partitionFirst _ => .generic1stPart
  | .partitionHeader _ => .dataHeader
  | .partitionData _ => .data
  | .footerFirst => .generic1stPart
  | .signature _ => .footer

def bytes : Part → List UInt8
  | .mainFirst header => headerID ++ put4Bytes header.length
  | .mainHeader header => header
  | .partitionFirst component => component.firstPart
  | .partitionHeader component => component.dataHeader
  | .partitionData component => component.data
  | .footerFirst => footerID ++ put4Bytes expectedSignatureSize
  | .signature bytes => bytes

/-- What goes to the keys of the headers. -/
def stored (part : Part) : List UInt8 :=
  match part with
  | .partitionData _ => []
  | part => part.bytes

def Told (part : Part) (partitionLen partNum : Nat) : Prop :=
  match part with
  | .mainHeader header => partitionLen = header.length
  | .partitionHeader component => partitionLen = component.data.length + 8
  | .partitionData component =>
      partitionLen = component.data.length ∧ partNum = component.partNum
  | .signature _ => partitionLen = expectedSignatureSize
  | _ => True

def Fits : Part → Prop
  | .mainFirst header => 0 < header.length ∧ header.length < 2 ^ 16
  | .mainHeader header => 0 < header.length ∧ header.length < 2 ^ 16
  | .partitionFirst component => component.data.length + 8 < 2 ^ 32
  | .partitionHeader component => component.data.length + 8 < 2 ^ 32
  | .partitionData component => component.data.length + 8 < 2 ^ 32
  | .footerFirst => True
  | .signature _ => True

inductive Leads : Part → Part → Prop
  | mainHeader (header : List UInt8) : Leads (.mainFirst header) (.mainHeader header)
  | partitionHeader (component : Component) :
      Leads (.partitionFirst component) (.partitionHeader component)
  | partitionData (component : Component) :
      Leads (.partitionHeader component) (.partitionData component)
  | signature (bytes : List UInt8) : Leads .footerFirst (.signature bytes)
  | behindHeader (header : List UInt8) {next : Part} (first : next.state = .generic1stPart) :
      Leads (.mainHeader header) next
  | behindData (component : Component) {next : Part} (first : next.state = .generic1stPart) :
      Leads (.partitionData component) next

section States

variable {part : Part}

theorem eq_first (first : part.state = .generic1stPart) :
    (∃ header, part = .mainFirst header) ∨ (∃ component, part = .partitionFirst component) ∨
      part = .footerFirst := by
  cases part with
  | mainFirst header => exact .inl ⟨header, rfl⟩
  | partitionFirst component => exact .inr (.inl ⟨component, rfl⟩)
  | footerFirst => exact .inr (.inr rfl)
  | mainHeader header => exact noConfusion first
  | partitionHeader component => exact noConfusion first
  | partitionData component => exact noConfusion first
  | signature bytes => exact noConfusion first

theorem eq_partitionData (isData : part.state = .data) :
    ∃ component, part = .partitionData component := by
  cases part with
  | partitionData component => exact ⟨component, rfl⟩
  | mainFirst header => exact noConfusion isData
  | mainHeader header => exact noConfusion isData
  | partitionFirst component => exact noConfusion isData
  | partitionHeader component => exact noConfusion isData
  | footerFirst => exact noConfusion isData
  | signature bytes => exact noConfusion isData

end States

end Part

theorem Component.get2Bytes_dataHeader (component : Component) :
    get2Bytes component.dataHeader 2 = some component.partNum := by
  have valid := component.valid
  have known : component.partNum < 2 ^ 16 := by
    rw [isValidPartitionNum, decide_eq_true_iff] at valid
    omega
  rw [dataHeader, append_assoc]
  calc
    _ = some (component.partNum % 2 ^ 16) :=
      (get2Bytes_append (put2Bytes component.sqifNum) _ 0).trans (get2Bytes_put2Bytes _ _)
    _ = some component.partNum := by rw [Nat.mod_eq_of_lt known]

theorem Component.getFirstWord_dataHeader (component : Component) :
    getFirstWord component.dataHeader partitionSecondHeaderSize = some component.firstWord :=
  getFirstWord_putFirstWord component.firstWord_lt
    (put2Bytes component.sqifNum ++ put2Bytes component.partNum)

def Component.parts (component : Component) : List Part :=
  [.partitionFirst component, .partitionHeader component, .partitionData component]

namespace UpgradeFile

def partsBehind (components : List Component) (signature : List UInt8) : List Part :=
  components.flatMap Component.parts ++ [.footerFirst, .signature signature]

def parts (file : UpgradeFile) : List Part :=
  .mainFirst file.header :: .mainHeader file.header ::
    partsBehind file.components file.signature

def log (file : UpgradeFile) : List UInt8 := file.parts.flatMap Part.stored

theorem bytes_eq (file : UpgradeFile) : file.bytes = file.parts.flatMap Part.bytes := by
  have each (component : Component) : component.parts.flatMap Part.bytes = component.bytes := by
    rw [Component.parts, Component.bytes, flatMap_cons, flatMap_cons, List.flatMap_singleton]
    rfl
  have all (components : List Component) :
      (components.flatMap Component.parts).flatMap Part.bytes =
        components.flatMap Component.bytes := by
    rw [List.flatMap_assoc]
    exact List.flatMap_congr fun component _ => each component
  rw [parts, partsBehind, flatMap_cons, flatMap_cons, List.flatMap_append, all, bytes, footer]
  change _ = headerID ++ put4Bytes file.header.length ++ (file.header ++
    (file.components.flatMap Component.bytes ++
      (footerID ++ put4Bytes expectedSignatureSize ++ (file.signature ++ []))))
  rw [List.append_nil]

theorem chain_partsBehind (components : List Component) (signature : List UInt8) :
    (partsBehind components signature).IsChain Part.Leads ∧
      ∀ part ∈ (partsBehind components signature).head?, part.state = .generic1stPart := by
  induction components with
  | nil =>
    refine ⟨List.isChain_cons_cons.mpr ⟨.signature signature, .singleton _⟩, fun part isHead => ?_⟩
    cases isHead
    rfl
  | cons component components ih =>
    obtain ⟨chain, first⟩ := ih
    have split : partsBehind (component :: components) signature =
        .partitionFirst component :: .partitionHeader component :: .partitionData component ::
          partsBehind components signature := rfl
    rw [split]
    refine ⟨?_, fun part isHead => ?_⟩
    · refine List.isChain_cons_cons.mpr ⟨.partitionHeader component, ?_⟩
      refine List.isChain_cons_cons.mpr ⟨.partitionData component, ?_⟩
      cases rest : partsBehind components signature with
      | nil => exact .singleton _
      | cons next rest' =>
        rw [rest] at chain first
        exact List.isChain_cons_cons.mpr ⟨.behindData component (first next rfl), chain⟩
    · cases isHead
      rfl

theorem chain_parts (file : UpgradeFile) : List.IsChain Part.Leads file.parts := by
  obtain ⟨chain, first⟩ := chain_partsBehind file.components file.signature
  refine List.isChain_cons_cons.mpr ⟨.mainHeader file.header, ?_⟩
  cases rest : partsBehind file.components file.signature with
  | nil => exact .singleton _
  | cons next rest' =>
    rw [rest] at chain first
    exact List.isChain_cons_cons.mpr ⟨.behindHeader file.header (first next rfl), chain⟩

end UpgradeFile

structure Awaits (log : List UInt8) (part : Part) (count total reqOffset : Nat)
    (context : OffsetSearch) : Prop where
  state : context.state = part.state
  keys : context.keys = freshContext ∧ count = 0 ∨ ReadsAt log context.keys count
  totalFileOffset : context.totalFileOffset = total
  expectedOffset : context.expectedOffset = reqOffset
  partOffset : context.partOffset = 0
  told : part.Told context.partitionLen context.partNum

namespace Awaits

variable {before : PsKeys} {store : HeaderStore} {log : List UInt8} {part next : Part}
  {count total reqOffset position : Nat} {context : OffsetSearch} {device : SearchDevice}

section

variable (awaits : Awaits log part count total reqOffset context)

include awaits

section

variable (holds : Holds before store log position) (device' : device.psKeys = store.psKeys)

include holds device'

theorem readHeaderPskey {bytes : List UInt8} (filled : 0 < bytes.length)
    (here : bytes <+: log.drop count) :
    ∃ keys, context.keys.readHeaderPskey device.psKeys bytes.length = some (true, bytes, keys) ∧
      ReadsAt log keys (count + bytes.length) := by
  have whole := List.prefix_iff_eq_take.mp here
  have length := here.length_le
  rw [List.length_drop] at length
  obtain ⟨keys, read, reads⟩ := holds.readHeaderPskey filled awaits.keys
    (by omega : count + bytes.length ≤ log.length)
  exact ⟨keys, by rw [device', read, ← whole], reads⟩

theorem read_first (first : part.state = .generic1stPart) {bytes : List UInt8}
    (twelve : bytes.length = headerFirstPartSize) (here : bytes <+: log.drop count) {length : Nat}
    (number : get4Bytes bytes idFieldSize = some length)
    (small : total + headerFirstPartSize < 2 ^ 32) :
    ∃ keys, ReadsAt log keys (count + headerFirstPartSize) ∧
      context.processNextStep device = some (OffsetSearch.enterPart bytes
        { context with
          keys := keys
          totalFileOffset := total + headerFirstPartSize
          partitionLen := length }) := by
  obtain ⟨keys, read, reads⟩ := awaits.readHeaderPskey holds device'
    (by rw [twelve]; exact Nat.succ_pos 11) here
  rw [twelve] at read reads
  have isFirst : context.state = .generic1stPart := awaits.state.trans first
  have stepped : context.processNextStep device = context.handleGeneric1stPart device := by
    rw [OffsetSearch.processNextStep, isFirst]
  refine ⟨keys, reads, ?_⟩
  rw [stepped, OffsetSearch.handleGeneric1stPart, read, bind_some]
  dsimp only
  rw [if_neg Bool.noConfusion, number, map_some, awaits.totalFileOffset, Nat.mod_eq_of_lt small]

theorem step_first (first : part.state = .generic1stPart) (leads : part.Leads next)
    (fits : part.Fits) (here : part.stored <+: log.drop count)
    (small : total + part.bytes.length < 2 ^ 32) :
    ∃ context', context.processNextStep device = some (decide (next.state ≠ .footer), context') ∧
      Awaits log next (count + part.stored.length) (total + part.bytes.length) reqOffset
        context' := by
  cases leads with
  | mainHeader header =>
    have number : get4Bytes (headerID ++ put4Bytes header.length) idFieldSize =
        some header.length := get4Bytes_behind headerID (by have := fits.2; omega)
    have isHeader : idField (headerID ++ put4Bytes header.length) = idField headerID := rfl
    obtain ⟨keys, reads, read⟩ := awaits.read_first holds device' first rfl here number small
    have entered := read.trans (congrArg some (if_pos isHeader))
    exact ⟨_, entered, rfl, .inr reads, rfl, awaits.expectedOffset, awaits.partOffset, rfl⟩
  | partitionHeader component =>
    have number : get4Bytes component.firstPart idFieldSize = some (component.data.length + 8) :=
      get4Bytes_behind partitionID fits
    have isPartition : idField component.firstPart = idField partitionID := rfl
    have noHeader : idField component.firstPart ≠ idField headerID := fun same =>
      absurd (isPartition.symm.trans same) (by decide)
    obtain ⟨keys, reads, read⟩ := awaits.read_first holds device' first rfl here number small
    have entered := read.trans
      (congrArg some ((if_neg noHeader).trans (if_pos isPartition)))
    exact ⟨_, entered, rfl, .inr reads, rfl, awaits.expectedOffset, awaits.partOffset, rfl⟩
  | signature bytes =>
    have number : get4Bytes (footerID ++ put4Bytes expectedSignatureSize) idFieldSize =
        some expectedSignatureSize := get4Bytes_behind footerID (by decide)
    have isFooter : idField (footerID ++ put4Bytes expectedSignatureSize) = idField footerID := rfl
    have noHeader : idField (footerID ++ put4Bytes expectedSignatureSize) ≠ idField headerID :=
      (isFooter.trans_ne (by decide))
    have noPartition : idField (footerID ++ put4Bytes expectedSignatureSize) ≠
        idField partitionID := isFooter.trans_ne (by decide)
    obtain ⟨keys, reads, read⟩ := awaits.read_first holds device' first rfl here number small
    have entered := read.trans (congrArg some
      ((if_neg noHeader).trans ((if_neg noPartition).trans (if_pos isFooter))))
    exact ⟨_, entered, rfl, .inr reads, rfl, awaits.expectedOffset, awaits.partOffset, rfl⟩
  | partitionData component => exact noConfusion first
  | behindHeader header => exact noConfusion first
  | behindData component => exact noConfusion first

end

end

theorem told_first (first : next.state = .generic1stPart) (partitionLen partNum : Nat) :
    next.Told partitionLen partNum := by
  obtain ⟨header, rfl⟩ | ⟨component, rfl⟩ | rfl := Part.eq_first first
  · trivial
  · trivial
  · trivial

theorem step (awaits : Awaits log part count total reqOffset context)
    (holds : Holds before store log position) (device' : device.psKeys = store.psKeys)
    (leads : part.Leads next) (fits : part.Fits) (here : part.stored <+: log.drop count)
    (small : total + part.bytes.length < 2 ^ 32) (positive : 0 < reqOffset)
    (ahead : part.state = .data → total + part.bytes.length ≤ reqOffset) :
    ∃ context', context.processNextStep device = some (decide (next.state ≠ .footer), context') ∧
      Awaits log next (count + part.stored.length) (total + part.bytes.length) reqOffset
        context' := by
  have total' := awaits.totalFileOffset
  have state := awaits.state
  have told := awaits.told
  by_cases first : part.state = .generic1stPart
  · exact awaits.step_first holds device' first leads fits here small
  cases leads with
  | mainHeader header => exact absurd rfl first
  | partitionHeader component => exact absurd rfl first
  | signature bytes => exact absurd rfl first
  | partitionData component =>
    have isHere : component.dataHeader <+: log.drop count := here
    have filled : 0 < component.dataHeader.length := Nat.succ_pos 7
    obtain ⟨keys, read, reads⟩ := awaits.readHeaderPskey holds device' filled isHere
    have small' : total + (partitionSecondHeaderSize + firstWordSize) < 2 ^ 32 := small
    have eight : component.dataHeader.length = partitionSecondHeaderSize + firstWordSize := rfl
    rw [eight] at read
    refine ⟨{ context with
        keys := keys
        totalFileOffset := total + (partitionSecondHeaderSize + firstWordSize)
        partitionLen := component.data.length
        partNum := component.partNum
        firstWord := component.firstWord
        state := .data }, ?_, rfl, .inr reads, rfl, awaits.expectedOffset, awaits.partOffset,
      rfl, rfl⟩
    have length : sub32 context.partitionLen (partitionSecondHeaderSize + firstWordSize) =
        component.data.length := by
      rw [show context.partitionLen = component.data.length + 8 from told,
        show partitionSecondHeaderSize + firstWordSize = 8 from rfl,
        UpgradeCtx.sub32_eq (Nat.le_add_left _ _) fits]
      exact Nat.add_sub_cancel _ _
    have stepped : context.processNextStep device = context.handlePartitionHeader device := by
      rw [OffsetSearch.processNextStep, state]
      rfl
    rw [stepped, OffsetSearch.handlePartitionHeader, read, bind_some]
    dsimp only
    rw [if_neg Bool.noConfusion, component.get2Bytes_dataHeader, component.getFirstWord_dataHeader]
    dsimp only
    rw [length, total', Nat.mod_eq_of_lt small']
    rfl
  | behindHeader header isFirst =>
    obtain ⟨keys, read, reads⟩ := awaits.readHeaderPskey holds device' fits.1 here
    refine ⟨{ context with
        keys := keys
        totalFileOffset := total + header.length
        state := .generic1stPart }, ?_, isFirst.symm, .inr reads, rfl, awaits.expectedOffset,
      awaits.partOffset, told_first isFirst _ _⟩
    have length : context.partitionLen = header.length := told
    have small' : total + header.length < 2 ^ 32 := small
    have goesOn : next.state ≠ .footer := fun wrong =>
      noConfusion (isFirst.symm.trans wrong)
    have stepped : context.processNextStep device = context.handleHeader device := by
      rw [OffsetSearch.processNextStep, state]
      rfl
    rw [stepped, OffsetSearch.handleHeader, length, Nat.mod_eq_of_lt fits.2, read, map_some]
    dsimp only
    rw [if_neg Bool.noConfusion, total', Nat.mod_eq_of_lt small', decide_eq_true goesOn]
  | behindData component isFirst =>
    have goesOn : next.state ≠ .footer := fun wrong =>
      noConfusion (isFirst.symm.trans wrong)
    have length : context.partitionLen = component.data.length := told.1
    have small' : total + component.data.length < 2 ^ 32 := small
    have ahead' : total + component.data.length ≤ reqOffset := ahead rfl
    have skipped : context.skipPartition.totalFileOffset = total + component.data.length := by
      rw [OffsetSearch.skipPartition, total', length]
      exact Nat.mod_eq_of_lt small'
    refine ⟨context.skipPartition, ?_, isFirst.symm, awaits.keys, skipped, awaits.expectedOffset,
      awaits.partOffset, told_first isFirst _ _⟩
    have stepped : context.processNextStep device = context.handlePartitionData device := by
      rw [OffsetSearch.processNextStep, state]
      rfl
    rw [stepped, OffsetSearch.handlePartitionData, awaits.expectedOffset, total', length,
      Nat.mod_eq_of_lt small', if_pos (Nat.pos_iff_ne_zero.mp positive),
      if_neg (Nat.not_lt.mpr ahead'), decide_eq_true goesOn]

end Awaits

structure StoppedAt (log : List UInt8) (part : Part) (count inside reqOffset : Nat)
    (context : OffsetSearch) : Prop where
  state : context.state = part.state
  keys : context.keys = freshContext ∧ count = 0 ∨ ReadsAt log context.keys count
  totalFileOffset : context.totalFileOffset = reqOffset
  partOffset : context.partOffset = inside
  told : part.Told context.partitionLen context.partNum

section Search

variable {before : PsKeys} {store : HeaderStore} {log : List UInt8} {passed after : List Part}
  {part target : Part} {count total inside reqOffset position : Nat} {context : OffsetSearch}
  {device : SearchDevice}

theorem Awaits.stoppedAt (awaits : Awaits log part count reqOffset reqOffset context) :
    StoppedAt log part count 0 reqOffset context :=
  { awaits with }

theorem Awaits.stop_inside {component : Component}
    (awaits : Awaits log (.partitionData component) count total reqOffset context)
    (ahead : total < reqOffset) (here : reqOffset < total + component.data.length)
    (small : total + component.data.length < 2 ^ 32) (cnt : Nat) :
    ∃ context', OffsetSearch.search device (cnt + 1) context = some context' ∧
      StoppedAt log (.partitionData component) count (reqOffset - total) reqOffset context' := by
  have length : context.partitionLen = component.data.length := awaits.told.1
  have state : context.state = .data := awaits.state
  have stepped : context.processNextStep device = context.handlePartitionData device := by
    rw [OffsetSearch.processNextStep, state]
  refine ⟨{ context with
    partOffset := reqOffset - total
    totalFileOffset := reqOffset }, ?_, awaits.state, awaits.keys, rfl, rfl, awaits.told⟩
  rw [OffsetSearch.search, stepped, OffsetSearch.handlePartitionData, awaits.expectedOffset,
    awaits.totalFileOffset, length, Nat.mod_eq_of_lt small, if_pos (by omega), if_pos here,
    bind_some]
  dsimp only
  rw [if_neg (fun both => Nat.lt_irrefl _ (awaits.expectedOffset ▸ both.2)),
    UpgradeCtx.sub32_eq (Nat.le_of_lt ahead) (by omega)]

variable {next : Part} {cnt : Nat}

theorem partitionData_of_empty (fits : part.Fits) (leads : part.Leads next)
    (empty : part.bytes = []) :
    next.state = .generic1stPart ∧
      ∃ component : Component, component.data = [] ∧ part = .partitionData component := by
  cases leads with
  | behindData component first => exact ⟨first, component, empty, rfl⟩
  | behindHeader header first =>
    have positive : 0 < header.length := fits.1
    rw [show header = [] from empty] at positive
    exact absurd positive (Nat.lt_irrefl 0)
  | mainHeader header => contradiction
  | partitionHeader component => contradiction
  | partitionData component => contradiction
  | signature bytes => contradiction

theorem filled_of_first (first : part.state = .generic1stPart) : part.bytes ≠ [] := by
  obtain ⟨header, rfl⟩ | ⟨component, rfl⟩ | rfl := Part.eq_first first
  · exact fun empty => by contradiction
  · exact fun empty => by contradiction
  · exact fun empty => by contradiction

theorem not_footer_of_leads (leads : part.Leads next) : part.state ≠ .footer := by
  cases leads <;> exact fun wrong => noConfusion wrong

theorem stored_behind {parts : List Part}
    (here : part.stored ++ parts.flatMap Part.stored <+: log.drop count) :
    parts.flatMap Part.stored <+: log.drop (count + part.stored.length) := by
  obtain ⟨behind, whole⟩ := here
  refine ⟨behind, ?_⟩
  rw [← List.drop_drop, ← whole, append_assoc, List.drop_left]

section

variable (holds : Holds before store log position) (device' : device.psKeys = store.psKeys)

include holds device'

theorem search_over {last : Part} (chain : (passed ++ last :: target :: after).IsChain Part.Leads)
    (fits : ∀ part ∈ passed ++ last :: target :: after, part.Fits)
    (here : (passed ++ last :: target :: after).flatMap Part.stored <+: log.drop count)
    (small : total + ((passed ++ last :: target :: after).flatMap Part.bytes).length < 2 ^ 32)
    (awaits : ∀ part ∈ (passed ++ last :: target :: after).head?,
      Awaits log part count total reqOffset context) (notData : last.state ≠ .data)
    (behind : total + (passed.flatMap Part.bytes).length < reqOffset)
    (short : reqOffset ≤ total + (passed.flatMap Part.bytes).length + last.bytes.length)
    (enough : passed.length < cnt) :
    ∃ context', OffsetSearch.search device cnt context = some context' ∧
      StoppedAt log target (count + (passed.flatMap Part.stored).length + last.stored.length) 0
        (total + (passed.flatMap Part.bytes).length + last.bytes.length) context' := by
  induction passed generalizing count total context cnt with
  | nil =>
    have awaits := awaits last rfl
    obtain ⟨cnt, rfl⟩ := Nat.exists_eq_succ_of_ne_zero (Nat.ne_of_gt enough)
    rw [List.nil_append] at chain fits here small
    rw [flatMap_cons] at here small
    rw [length_append] at small
    rw [flatMap_nil, length_nil, Nat.add_zero] at short ⊢
    obtain ⟨context', stepped, awaits'⟩ := awaits.step holds device'
      (List.isChain_cons_cons.mp chain).1 (fits last mem_cons_self)
      ((List.prefix_append _ _).trans here) (by omega) (by omega)
      fun isData => absurd isData notData
    refine ⟨context', ?_, awaits'.state, awaits'.keys, awaits'.totalFileOffset,
      awaits'.partOffset, awaits'.told⟩
    rw [OffsetSearch.search, stepped, bind_some]
    dsimp only
    rw [awaits'.totalFileOffset, awaits'.expectedOffset,
      if_neg fun both => Nat.not_lt.mpr short both.2]
  | cons part' passed ih =>
    have awaits := awaits part' rfl
    obtain ⟨cnt, rfl⟩ := Nat.exists_eq_succ_of_ne_zero (Nat.ne_of_gt (Nat.zero_lt_of_lt enough))
    rw [cons_append] at chain fits here small
    rw [flatMap_cons] at here small behind short ⊢
    rw [length_append] at small behind short ⊢
    obtain ⟨next, rest, isRest, goesOn⟩ : ∃ next rest,
        passed ++ last :: target :: after = next :: rest ∧ next.state ≠ .footer := by
      cases passed with
      | nil => exact ⟨_, _, rfl, not_footer_of_leads
          (List.isChain_cons_cons.mp (List.isChain_cons_cons.mp chain).2).1⟩
      | cons next passed =>
        have behindNext := (List.isChain_cons_cons.mp chain).2
        refine ⟨next, passed ++ last :: target :: after, rfl, ?_⟩
        cases passed with
        | nil => exact not_footer_of_leads (List.isChain_cons_cons.mp behindNext).1
        | cons next' passed =>
          exact not_footer_of_leads (List.isChain_cons_cons.mp behindNext).1
    have leads : part'.Leads next ∧ (passed ++ last :: target :: after).IsChain Part.Leads := by
      rw [isRest] at chain ⊢
      exact List.isChain_cons_cons.mp chain
    obtain ⟨context', stepped, awaits'⟩ := awaits.step holds device' leads.1
      (fits part' mem_cons_self) ((List.prefix_append _ _).trans here) (by omega) (by omega)
      fun _ => by omega
    have more : total + part'.bytes.length < reqOffset := by omega
    have awaitsNext : ∀ part ∈ (passed ++ last :: target :: after).head?,
        Awaits log part (count + part'.stored.length) (total + part'.bytes.length) reqOffset
          context' := by
      intro part isHead
      rw [isRest] at isHead
      cases isHead
      exact awaits'
    rw [length_cons] at enough
    obtain ⟨context'', searched, stopped⟩ := ih leads.2
      (fun part member => fits part (List.mem_cons_of_mem _ member)) (stored_behind here)
      (by omega) awaitsNext (by omega) (by omega) (by omega : passed.length < cnt)
    refine ⟨context'', ?_, ?_⟩
    · rw [OffsetSearch.search, stepped, bind_some]
      dsimp only
      rw [awaits'.totalFileOffset, awaits'.expectedOffset, if_pos ⟨decide_eq_true goesOn, more⟩,
        searched]
    · rw [flatMap_cons, length_append, ← Nat.add_assoc, ← Nat.add_assoc]
      exact stopped

theorem search_stops (chain : (passed ++ target :: after).IsChain Part.Leads)
    (fits : ∀ part ∈ passed ++ target :: after, part.Fits)
    (here : (passed ++ target :: after).flatMap Part.stored <+: log.drop count)
    (small : total + ((passed ++ target :: after).flatMap Part.bytes).length < 2 ^ 32)
    (awaits : ∀ part ∈ (passed ++ target :: after).head?,
      Awaits log part count total reqOffset context)
    (place : total + (passed.flatMap Part.bytes).length + inside = reqOffset)
    (within : inside = 0 ∨ target.state = .data ∧ inside < target.bytes.length)
    (ahead : total < reqOffset) (enough : passed.length < cnt) :
    ∃ context', OffsetSearch.search device cnt context = some context' ∧
      (StoppedAt log target (count + (passed.flatMap Part.stored).length) inside reqOffset
          context' ∨
        ∃ component : Component, component.data = [] ∧ inside = 0 ∧ target.state = .generic1stPart ∧
          StoppedAt log (.partitionData component) (count + (passed.flatMap Part.stored).length) 0
            reqOffset context') := by
  induction passed generalizing count total context cnt with
  | nil =>
    have awaits := awaits target rfl
    rw [flatMap_nil, length_nil, Nat.add_zero] at place ⊢
    obtain ⟨isData, short⟩ := within.resolve_left (by omega)
    obtain ⟨cnt, rfl⟩ := Nat.exists_eq_succ_of_ne_zero (Nat.ne_of_gt enough)
    obtain ⟨component, rfl⟩ := Part.eq_partitionData isData
    have length : (Part.partitionData component).bytes.length = component.data.length := rfl
    rw [List.nil_append, flatMap_cons, length_append, length] at small
    rw [length] at short
    obtain ⟨context', searched, stopped⟩ := @Awaits.stop_inside _ _ _ _ _ device component
      awaits ahead (by omega) (by omega) cnt
    rw [show reqOffset - total = inside by omega] at stopped
    exact ⟨context', searched, .inl stopped⟩
  | cons part passed ih =>
    have awaits := awaits part rfl
    obtain ⟨cnt, rfl⟩ := Nat.exists_eq_succ_of_ne_zero (Nat.ne_of_gt (Nat.zero_lt_of_lt enough))
    obtain ⟨next, rest, isRest⟩ : ∃ next rest, passed ++ target :: after = next :: rest := by
      cases passed with
      | nil => exact ⟨_, _, rfl⟩
      | cons next passed => exact ⟨_, _, rfl⟩
    rw [cons_append] at chain fits here small
    rw [flatMap_cons] at here small place
    rw [length_append] at small place
    have fitsRest : ∀ part ∈ passed ++ target :: after, part.Fits := fun part member =>
      fits part (List.mem_cons_of_mem _ member)
    have leads : part.Leads next ∧ (passed ++ target :: after).IsChain Part.Leads := by
      rw [isRest] at chain ⊢
      exact List.isChain_cons_cons.mp chain
    obtain ⟨context', stepped, awaits'⟩ := awaits.step holds device' leads.1
      (fits part mem_cons_self) ((List.prefix_append _ _).trans here) (by omega) (by omega)
      fun _ => by omega
    have hereRest := stored_behind here
    have counted : count + ((part :: passed).flatMap Part.stored).length =
        count + part.stored.length + (passed.flatMap Part.stored).length := by
      rw [flatMap_cons, length_append, Nat.add_assoc]
    rw [OffsetSearch.search, stepped, bind_some, counted]
    dsimp only
    rw [awaits'.totalFileOffset, awaits'.expectedOffset]
    by_cases more : total + part.bytes.length < reqOffset
    · have goesOn : next.state ≠ .footer := by
        cases passed with
        | nil =>
          obtain rfl := (List.cons.inj isRest).1
          intro isFooter
          rcases within with rfl | ⟨isData, _⟩
          · rw [flatMap_nil, length_nil] at place
            omega
          · exact noConfusion (isData.symm.trans isFooter)
        | cons part' passed =>
          obtain rfl := (List.cons.inj isRest).1
          cases passed with
          | nil => exact not_footer_of_leads (List.isChain_cons_cons.mp leads.2).1
          | cons part' passed =>
            exact not_footer_of_leads (List.isChain_cons_cons.mp leads.2).1
      rw [if_pos ⟨decide_eq_true goesOn, more⟩]
      exact ih leads.2 fitsRest hereRest (by omega)
        (fun part isHead => by
          rw [isRest] at isHead
          cases isHead
          exact awaits')
        (by omega) more (by rw [length_cons] at enough; omega)
    · rw [if_neg fun both => more both.2]
      refine ⟨context', rfl, ?_⟩
      have reached : total + part.bytes.length = reqOffset := by omega
      have empty : (passed.flatMap Part.bytes).length = 0 := by omega
      obtain rfl : inside = 0 := by omega
      rw [reached] at awaits'
      have stopped := awaits'.stoppedAt
      cases passed with
      | nil =>
        obtain rfl := (List.cons.inj isRest).1
        exact .inl stopped
      | cons part' passed =>
        -- Where parts without bytes follow, it is the data of a partition that has none.
        obtain rfl := (List.cons.inj isRest).1
        rw [flatMap_cons, length_append] at empty
        have nothing : part'.bytes = [] := List.length_eq_zero_iff.mp (by omega)
        have fits' := fitsRest part' mem_cons_self
        cases passed with
        | nil =>
          obtain ⟨first, component, noData, rfl⟩ :=
            partitionData_of_empty fits' (List.isChain_cons_cons.mp leads.2).1 nothing
          exact .inr ⟨component, noData, rfl, first, stopped⟩
        | cons next' passed =>
          have first := (partitionData_of_empty fits'
            (List.isChain_cons_cons.mp leads.2).1 nothing).1
          rw [flatMap_cons, length_append] at empty
          exact absurd (List.length_eq_zero_iff.mp (by omega)) (filled_of_first first)

end

end Search

structure PartitionState.IsAt (found : PartitionState) (part : Part) (count inside : Nat) :
    Prop where
  pskey : found.pskey = dfuHeaderPskeyStart + count / pskeyMaxStorageLengthInBytes
  pskeyOffset : found.pskeyOffset = count % pskeyMaxStorageLengthInBytes
  state : found.state = part.state
  partOffset : found.partOffset = inside
  told : part.Told found.partitionLen found.partNum

structure UpgradeFile.StoredIn (file : UpgradeFile) (before : PsKeys) (store : HeaderStore) :
    Prop where
  holds : Holds before store file.log file.log.length
  fits : ∀ part ∈ file.parts, part.Fits
  length : file.bytes.length < 2 ^ 32

structure UpgradeFile.ResumesAt (file : UpgradeFile) (reqOffset : Nat) (passed : List Part)
    (target : Part) (after : List Part) (inside : Nat) : Prop where
  parts : file.parts = passed ++ target :: after
  within : inside = 0 ∨ target.state = .data ∧ inside < target.bytes.length
  nearest : reqOffset = (passed.flatMap Part.bytes).length + inside ∨
    inside = 0 ∧ ∃ earlier last, passed = earlier ++ [last] ∧ last.state ≠ .data ∧
      (earlier.flatMap Part.bytes).length < reqOffset ∧
      reqOffset ≤ (passed.flatMap Part.bytes).length

section Files

variable {before : PsKeys} {store : HeaderStore} {file : UpgradeFile} {log : List UInt8}
  {passed after : List Part} {part target : Part} {count inside reqOffset : Nat}
  {context : OffsetSearch} {device : SearchDevice}

theorem StoppedAt.isAt (stopped : StoppedAt log part count inside reqOffset context)
    (positive : 0 < count) : context.found.IsAt part count inside := by
  have reads := stopped.keys.resolve_left fun fresh => Nat.ne_of_gt positive fresh.2
  have inKeys := reads.pskey
  have isCount := reads.count
  have length := Segments.length_segment 64 log (context.keys.pskey - 511)
  have inside' := reads.inside
  rw [reads.pskeyLen] at inside'
  rw [OffsetSearch.found]
  by_cases full : context.keys.pskeyOffset = pskeyMaxStorageLengthInBytes
  · rw [if_pos full]
    rw [pskeyMaxStorageLengthInBytes] at full
    refine ⟨?_, ?_, stopped.state, stopped.partOffset, stopped.told⟩
    all_goals
      dsimp only [pskeyMaxStorageLengthInBytes, dfuHeaderPskeyStart]
      omega
  · rw [if_neg full]
    rw [pskeyMaxStorageLengthInBytes] at full
    refine ⟨?_, ?_, stopped.state, stopped.partOffset, stopped.told⟩
    all_goals
      dsimp only [pskeyMaxStorageLengthInBytes, dfuHeaderPskeyStart]
      omega

theorem length_partsBehind (components : List Component) (signature : List UInt8) :
    (UpgradeFile.partsBehind components signature).length = 3 * components.length + 2 ∧
      20 * components.length ≤
        ((UpgradeFile.partsBehind components signature).flatMap Part.stored).length := by
  induction components with
  | nil => exact ⟨rfl, Nat.zero_le _⟩
  | cons component components ih =>
    obtain ⟨parts, stored⟩ := ih
    have split : UpgradeFile.partsBehind (component :: components) signature =
        .partitionFirst component :: .partitionHeader component :: .partitionData component ::
          UpgradeFile.partsBehind components signature := rfl
    have first : (Part.partitionFirst component).stored.length = 12 := rfl
    have header : (Part.partitionHeader component).stored.length = 8 := rfl
    rw [split]
    refine ⟨?_, ?_⟩
    · rw [length_cons, length_cons, length_cons, length_cons, parts]
      omega
    · rw [flatMap_cons, flatMap_cons, flatMap_cons, length_append,
        length_append, length_append, length_cons, first, header]
      omega

theorem UpgradeFile.StoredIn.length_parts (stored : file.StoredIn before store) :
    file.parts.length < maxDfuFileComponents := by
  obtain ⟨parts, behind⟩ := length_partsBehind file.components file.signature
  have fits := stored.holds.fits
  rw [log, UpgradeFile.parts, flatMap_cons, flatMap_cons, length_append, length_append] at fits
  rw [UpgradeFile.parts, length_cons, length_cons, parts, maxDfuFileComponents]
  omega

theorem exists_resume (parts : List Part) (final : Part) (reqOffset : Nat)
    (upTo : reqOffset ≤ (parts.flatMap Part.bytes).length) :
    ∃ passed target after inside, parts ++ [final] = passed ++ target :: after ∧
      (inside = 0 ∨ target.state = .data ∧ inside < target.bytes.length) ∧
      (reqOffset = (passed.flatMap Part.bytes).length + inside ∨
        inside = 0 ∧ ∃ earlier last, passed = earlier ++ [last] ∧ last.state ≠ .data ∧
          (earlier.flatMap Part.bytes).length < reqOffset ∧
          reqOffset ≤ (passed.flatMap Part.bytes).length) := by
  induction parts generalizing reqOffset with
  | nil => exact ⟨[], final, [], 0, rfl, .inl rfl, .inl (Nat.le_zero.mp upTo)⟩
  | cons part parts ih =>
    rw [flatMap_cons, length_append] at upTo
    by_cases first : reqOffset = 0
    · exact ⟨[], part, parts ++ [final], 0, rfl, .inl rfl, .inl first⟩
    by_cases here : reqOffset < part.bytes.length
    · by_cases isData : part.state = .data
      · exact ⟨[], part, parts ++ [final], reqOffset, rfl, .inr ⟨isData, here⟩,
          .inl (Nat.zero_add _).symm⟩
      · obtain ⟨next, rest, isRest⟩ : ∃ next rest, parts ++ [final] = next :: rest := by
          cases parts with
          | nil => exact ⟨_, _, rfl⟩
          | cons next parts => exact ⟨_, _, rfl⟩
        refine ⟨[part], next, rest, 0, ?_, .inl rfl, .inr ⟨rfl, [], part, rfl, isData, ?_, ?_⟩⟩
        · rw [cons_append, isRest]
          rfl
        · exact Nat.pos_of_ne_zero first
        · rw [List.flatMap_singleton]
          exact Nat.le_of_lt here
    · obtain ⟨passed, target, after, inside, isParts, within, nearest⟩ :=
        ih (reqOffset - part.bytes.length) (by omega)
      refine ⟨part :: passed, target, after, inside, ?_, within, ?_⟩
      · rw [cons_append, isParts]
        rfl
      rw [flatMap_cons, length_append]
      rcases nearest with exactly | ⟨zero, earlier, last, rfl, notData, behind, before⟩
      · exact .inl (by omega)
      · refine .inr ⟨zero, part :: earlier, last, rfl, notData, ?_, by omega⟩
        rw [flatMap_cons, length_append]
        omega

theorem UpgradeFile.exists_resumesAt (file : UpgradeFile)
    (upTo : reqOffset + expectedSignatureSize ≤ file.bytes.length) :
    ∃ passed target after inside, file.ResumesAt reqOffset passed target after inside := by
  have isParts : file.parts = (.mainFirst file.header :: .mainHeader file.header ::
      (file.components.flatMap Component.parts ++ [.footerFirst])) ++
        [.signature file.signature] := by
    rw [UpgradeFile.parts, UpgradeFile.partsBehind, cons_append, cons_append, append_assoc]
    rfl
  rw [file.bytes_eq, isParts, List.flatMap_append, length_append, List.flatMap_singleton,
    show (Part.signature file.signature).bytes.length = expectedSignatureSize from
      file.signature_length] at upTo
  obtain ⟨passed, target, after, inside, isParts', within, nearest⟩ :=
    exists_resume _ (.signature file.signature) reqOffset (Nat.le_of_add_le_add_right upTo)
  exact ⟨passed, target, after, inside, isParts.trans isParts', within, nearest⟩

theorem UpgradeFile.StoredIn.search_offset (stored : file.StoredIn before store)
    (device' : device.psKeys = store.psKeys)
    (resumes : file.ResumesAt reqOffset passed target after inside) (positive : 0 < reqOffset) :
    ∃ found, getPartitionStateFromDfuFileOffset device reqOffset = some (some found) ∧
      (found.IsAt target (passed.flatMap Part.stored).length inside ∨
        ∃ component : Component, component.data = [] ∧ inside = 0 ∧ target.state = .generic1stPart ∧
          found.IsAt (.partitionData component) (passed.flatMap Part.stored).length 0) := by
  obtain ⟨isParts, within, nearest⟩ := resumes
  have chain := file.chain_parts
  have fits := stored.fits
  have length := stored.length
  have enough := stored.length_parts
  have here : file.parts.flatMap Part.stored <+: file.log.drop 0 := by
    rw [List.drop_zero]
    exact List.prefix_rfl
  have awaits : ∀ part ∈ file.parts.head?,
      Awaits file.log part 0 0 reqOffset (.start reqOffset) := by
    intro part isHead
    cases isHead
    exact ⟨rfl, .inl ⟨rfl, rfl⟩, rfl, rfl, rfl, trivial⟩
  have counted : 0 < (passed.flatMap Part.stored).length := by
    cases passed with
    | nil =>
      obtain rfl := (List.cons.inj isParts).1
      rw [flatMap_nil, length_nil] at nearest
      rcases within with rfl | ⟨isData, _⟩
      · rcases nearest with exactly | ⟨_, _, _, _, _, _, none⟩
        all_goals omega
      · exact noConfusion isData
    | cons part passed =>
      obtain rfl := (List.cons.inj isParts).1
      have twelve : (Part.mainFirst file.header).stored.length = 12 := rfl
      rw [flatMap_cons, length_append, twelve]
      omega
  rw [file.bytes_eq] at length
  rw [isParts] at chain fits length enough here awaits
  rw [length_append] at enough
  obtain ⟨context, searched, reached, stopped⟩ : ∃ context,
      OffsetSearch.search device maxDfuFileComponents (.start reqOffset) = some context ∧
      reqOffset ≤ context.totalFileOffset ∧
      (context.found.IsAt target (passed.flatMap Part.stored).length inside ∨
        ∃ component : Component, component.data = [] ∧ inside = 0 ∧ target.state = .generic1stPart ∧
          context.found.IsAt (.partitionData component) (passed.flatMap Part.stored).length 0) := by
    rcases nearest with exactly | ⟨rfl, earlier, last, rfl, notData, behind, upTo⟩
    · obtain ⟨context, searched, stopped⟩ := search_stops stored.holds device' chain fits here
        (by omega) awaits (by omega) within positive
        (by omega : passed.length < maxDfuFileComponents)
      rw [Nat.zero_add] at stopped
      refine ⟨context, searched, ?_⟩
      rcases stopped with stopped | ⟨component, noData, zero, first, stopped⟩
      · exact ⟨Nat.le_of_eq stopped.totalFileOffset.symm, .inl (stopped.isAt counted)⟩
      · exact ⟨Nat.le_of_eq stopped.totalFileOffset.symm,
          .inr ⟨component, noData, zero, first, stopped.isAt counted⟩⟩
    · rw [append_assoc, List.singleton_append] at chain fits here length awaits
      rw [List.flatMap_append, length_append, List.flatMap_singleton] at upTo counted ⊢
      rw [length_append] at enough
      obtain ⟨context, searched, stopped⟩ := search_over stored.holds device' chain fits here
        (by omega) awaits notData (by omega) (by omega)
        (by omega : earlier.length < maxDfuFileComponents)
      rw [Nat.zero_add, Nat.zero_add] at stopped
      exact ⟨context, searched, by rw [stopped.totalFileOffset]; exact upTo,
        .inl (stopped.isAt counted)⟩
  refine ⟨context.found, ?_, stopped⟩
  rw [getPartitionStateFromDfuFileOffset, searched, map_some, if_neg (Nat.not_lt.mpr reached)]

end Files

end HeadsetAdk.Upgrade
