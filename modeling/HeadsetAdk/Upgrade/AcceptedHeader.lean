import HeadsetAdk.Upgrade.Transfer

/-! # Nothing is touched before a header is accepted -/

namespace HeadsetAdk.Upgrade

namespace UpgradeCtx

/-- The bytes that are parsed as a whole part of the file when a packet arrives. -/
def wholePart (ctx : UpgradeCtx) (data : List UInt8) : Option (List UInt8) :=
  if (ctx.receive data.length).totalReceivedSize = ctx.totalReqSize then
    if ctx.incompleteData ≠ [] ∧
        data.length > maxPartitionDataBlockSize - ctx.incompleteData.length then none
    else some (ctx.incompleteData ++ data)
  else none

def acceptsHeader (firmware : Firmware) (ctx : UpgradeCtx) (data : List UInt8) : Bool :=
  match ctx.state, ctx.wholePart data with
  | .header, some bytes =>
      match checkHeader firmware ctx.psKeys bytes with
      | some (.ok _) => true
      | _ => false
  | _, _ => false

def startsFooter (ctx : UpgradeCtx) (data : List UInt8) : Bool :=
  match ctx.state, ctx.wholePart data with
  | .generic1stPart, some bytes =>
      headerFirstPartSize ≤ bytes.length ∧ idField bytes = idField footerID ∧
        get4Bytes bytes idFieldSize = some expectedSignatureSize
  | _, _ => false

/-- All packets one behind the other, whatever they are answered with. -/
def parseEach (firmware : Firmware) :
    UpgradeCtx → Packets → Option (List HostErrorCode × UpgradeCtx)
  | ctx, [] => some ([], ctx)
  | ctx, (keyCache, data) :: packets =>
      (ctx.parse firmware keyCache data).bind fun (code, next) =>
        (parseEach firmware next packets).map fun (codes, last) => (code :: codes, last)

def accepted (firmware : Firmware) : UpgradeCtx → Packets → Bool
  | _, [] => false
  | ctx, (keyCache, data) :: packets =>
      ctx.acceptsHeader firmware data ||
        match ctx.parse firmware keyCache data with
        | some (_, next) => accepted firmware next packets
        | none => false

def footerAfterHeader (firmware : Firmware) : UpgradeCtx → Packets → Bool
  | _, [] => true
  | ctx, (keyCache, data) :: packets =>
      ctx.acceptsHeader firmware data ||
        !ctx.startsFooter data &&
          match ctx.parse firmware keyCache data with
          | some (_, next) => footerAfterHeader firmware next packets
          | none => true

end UpgradeCtx

section HeaderKeys

variable {room : StoreRoom} {store store' : HeaderStore} {keyCache data : List UInt8}
  {code : HostErrorCode}

theorem nextKey_psKeys (store : HeaderStore) : store.nextKey.psKeys = store.psKeys := by
  rw [HeaderStore.nextKey]
  split <;> rfl

theorem nextKey_inKeys
    (inKeys : dfuHeaderPskeyStart ≤ store.dfuHeaderPskey ∧
      store.dfuHeaderPskey ≤ dfuHeaderPskeyEnd) (more : ¬ store.outOfKeys = true) :
    dfuHeaderPskeyStart ≤ store.nextKey.dfuHeaderPskey ∧
      store.nextKey.dfuHeaderPskey ≤ dfuHeaderPskeyEnd := by
  rw [HeaderStore.outOfKeys, decide_eq_true_iff] at more
  rw [HeaderStore.nextKey]
  split
  · dsimp only
    omega
  · exact inKeys

theorem saveLoop_incomplete {rounds : Nat}
    (saved : HeaderStore.saveLoop room rounds keyCache store data = some (code, store')) :
    code ≠ .dataTransferComplete := by
  induction rounds generalizing keyCache store data with
  | zero => contradiction
  | succ rounds ih =>
    rw [HeaderStore.saveLoop] at saved
    split at saved
    · contradiction
    · dsimp only at saved
      split at saved
      · cases saved
        decide
      · generalize store.advance _ _ = advanced at saved
        split at saved
        · cases saved
          decide
        split at saved
        · cases saved
          decide
        · exact ih saved

theorem saveLoop_others {rounds : Nat}
    (inKeys : dfuHeaderPskeyStart ≤ store.dfuHeaderPskey ∧ store.dfuHeaderPskey ≤ dfuHeaderPskeyEnd)
    (saved : HeaderStore.saveLoop room rounds keyCache store data = some (code, store'))
    {key : Nat} (other : key < dfuHeaderPskeyStart ∨ dfuHeaderPskeyEnd < key) :
    store'.psKeys key = store.psKeys key := by
  induction rounds generalizing keyCache store data with
  | zero => contradiction
  | succ rounds ih =>
    rw [HeaderStore.saveLoop] at saved
    split at saved
    · contradiction
    · dsimp only at saved
      split at saved
      · cases saved
        rfl
      · obtain ⟨advanced, isAdvanced⟩ : ∃ advanced, store.advance
            (if store.needsWrite data = true then
              Function.update store.psKeys store.dfuHeaderPskey (store.stored keyCache data)
            else store.psKeys) (store.dataWriteSize data) = advanced := ⟨_, rfl⟩
        have others : advanced.nextKey.psKeys key = store.psKeys key := by
          rw [nextKey_psKeys, ← isAdvanced, HeaderStore.advance]
          dsimp only
          split
          · exact Function.update_of_ne (by omega) _ _
          · rfl
        have here : advanced.dfuHeaderPskey = store.dfuHeaderPskey := by
          rw [← isAdvanced]
          rfl
        rw [isAdvanced] at saved
        split at saved
        · cases saved
          exact others
        · rename_i more
          split at saved
          · cases saved
            exact others
          · have inKeys' := nextKey_inKeys (by rw [here]; exact inKeys) more
            exact (ih inKeys' saved).trans others

end HeaderKeys

namespace UpgradeCtx

section Steps

variable {firmware : Firmware} {device ctx next : UpgradeCtx} {keyCache data : List UInt8}
  {code : HostErrorCode}

/-- What holds of a new context until a main header is accepted. -/
structure Untouched (device ctx : UpgradeCtx) : Prop where
  flash : ctx.flash = device.flash
  psKeys : ∀ key, key < dfuHeaderPskeyStart ∨ dfuHeaderPskeyEnd < key →
    ctx.headerStore.psKeys key = device.headerStore.psKeys key
  partitionNum : ctx.partitionNum = 0
  state : ctx.state = .generic1stPart ∧ ctx.isUpgradeHdrAvailable = false ∨ ctx.state = .header

theorem Untouched.receive (untouched : Untouched device ctx) (size : Nat) :
    Untouched device (ctx.receive size) :=
  { untouched with }

theorem Untouched.withIncomplete (untouched : Untouched device ctx) (bytes : List UInt8) :
    Untouched device (ctx.withIncomplete bytes) :=
  { untouched with }

theorem untouched_partitionDataInit (device : UpgradeCtx) :
    Untouched device device.partitionDataInit :=
  ⟨rfl, fun _ _ => rfl, rfl, Or.inl ⟨rfl, rfl⟩⟩

section

variable (untouched : Untouched device ctx)

include untouched

theorem Untouched.saveHeaderThen {after : UpgradeCtx → HostErrorCode × UpgradeCtx}
    (keeps : ∀ store, Untouched device (ctx.withStore store) →
      Untouched device (after (ctx.withStore store)).2 ∧
        (after (ctx.withStore store)).1 ≠ .dataTransferComplete)
    (start : ctx.headerStore.dfuHeaderPskey = dfuHeaderPskeyStart)
    (saved : ctx.saveHeaderThen firmware keyCache data after = some (code, next)) :
    Untouched device next ∧ code ≠ .dataTransferComplete := by
  rw [UpgradeCtx.saveHeaderThen, saveHeader] at saved
  obtain ⟨⟨code', ctx'⟩, savedStore, same⟩ := Option.map_eq_some_iff.mp saved
  obtain ⟨⟨code'', store⟩, savedKeys, same'⟩ := Option.map_eq_some_iff.mp savedStore
  cases same'
  have inKeys : dfuHeaderPskeyStart ≤ ctx.headerStore.dfuHeaderPskey ∧
      ctx.headerStore.dfuHeaderPskey ≤ dfuHeaderPskeyEnd := by
    rw [start]
    decide
  have stored : Untouched device (ctx.withStore store) :=
    ⟨untouched.flash, fun key other => (saveLoop_others inKeys savedKeys other).trans
      (untouched.psKeys key other), untouched.partitionNum, untouched.state⟩
  dsimp only at same
  split at same
  · cases same
    exact ⟨stored, saveLoop_incomplete savedKeys⟩
  · have kept := keeps store stored
    rw [show after (ctx.withStore store) = (code, next) from same] at kept
    exact kept

theorem Untouched.handleGeneric1stPartState (missing : ctx.isUpgradeHdrAvailable = false)
    (noFooter : ¬ (headerFirstPartSize ≤ data.length ∧ idField data = idField footerID ∧
      get4Bytes data idFieldSize = some expectedSignatureSize))
    (handled : ctx.handleGeneric1stPartState firmware keyCache data = some (code, next)) :
    Untouched device next ∧ code ≠ .dataTransferComplete := by
  rw [UpgradeCtx.handleGeneric1stPartState] at handled
  split at handled
  · cases handled
    exact ⟨untouched, by decide⟩
  rename_i enough
  split at handled
  · contradiction
  rename_i length read
  split at handled
  · rw [startHeader] at handled
    split at handled
    · cases handled
      exact ⟨untouched, by decide⟩
    · refine Untouched.saveHeaderThen ?_
        (fun store stored => ⟨?_, complete_ne_success.symm⟩) ?_ handled
      · split <;> exact { untouched with }
      · exact ⟨stored.flash, stored.psKeys, stored.partitionNum, Or.inr rfl⟩
      · split <;> rfl
  split at handled
  · rw [startCaseFile] at handled
    refine Untouched.saveHeaderThen ?_
      (fun store stored => ⟨?_, complete_ne_success.symm⟩) ?_ handled
    · exact { untouched with }
    · exact { stored with }
    · rfl
  split at handled
  · rw [startDataHeader, if_pos ⟨untouched.partitionNum, missing⟩] at handled
    cases handled
    exact ⟨untouched, by decide⟩
  split at handled
  · rename_i footer
    rw [startFooter, if_pos] at handled
    · cases handled
      exact ⟨untouched, by decide⟩
    · rintro rfl
      exact noFooter ⟨Nat.not_lt.mp enough, footer, read⟩
  · cases handled
    exact ⟨untouched, by decide⟩

/-- One packet: a header is accepted, a footer begins, or nothing is touched. -/
theorem Untouched.parse (parsed : ctx.parse firmware keyCache data = some (code, next)) :
    ctx.acceptsHeader firmware data = true ∨ ctx.startsFooter data = true ∨
      Untouched device next ∧ code ≠ .dataTransferComplete := by
  have received := untouched.receive data.length
  have whole (bytes : List UInt8) (isWhole : ctx.wholePart data = some bytes)
      (handled : ((ctx.receive data.length).withIncomplete []).parseWhole firmware keyCache bytes =
        some (code, next)) :
      ctx.acceptsHeader firmware data = true ∨ ctx.startsFooter data = true ∨
        Untouched device next ∧ code ≠ .dataTransferComplete := by
    have emptied := received.withIncomplete []
    rw [parseWhole] at handled
    rcases untouched.state with ⟨state, missing⟩ | state
    · have state' : ((ctx.receive data.length).withIncomplete []).state = .generic1stPart := state
      rw [state'] at handled
      by_cases footer : ctx.startsFooter data = true
      · exact Or.inr (Or.inl footer)
      · rw [startsFooter, state, isWhole] at footer
        exact Or.inr (Or.inr (emptied.handleGeneric1stPartState missing
          (fun starts => footer (decide_eq_true starts)) handled))
    · have state' : ((ctx.receive data.length).withIncomplete []).state = .header := state
      rw [state'] at handled
      dsimp only at handled
      rw [handleHeaderState] at handled
      split at handled
      · contradiction
      · rename_i refused checked
        cases handled
        rcases checkHeader_cases checked with isError | ⟨_, isOk, _⟩
        · refine Or.inr (Or.inr ⟨emptied, ?_⟩)
          rcases isError with isError | isError | isError <;>
            obtain rfl := Except.error.inj isError <;> decide
        · contradiction
      · rename_i newVersion newPSVersion checked
        have checked' : checkHeader firmware ctx.psKeys bytes =
            some (.ok (newVersion, newPSVersion)) := checked
        refine Or.inl ?_
        rw [acceptsHeader, state, isWhole]
        dsimp only
        rw [checked']
  have collects : ctx.CollectsHeader := by
    rcases untouched.state with ⟨state, _⟩ | state
    · exact Or.inl state
    · exact Or.inr (Or.inl state)
  have error {answer : HostErrorCode} {last : UpgradeCtx} (untouched : Untouched device last)
      (notComplete : answer ≠ .dataTransferComplete)
      (same : some (answer, last) = some (code, next)) :
      ctx.acceptsHeader firmware data = true ∨ ctx.startsFooter data = true ∨
        Untouched device next ∧ code ≠ .dataTransferComplete := by
    cases same
    exact Or.inr (Or.inr ⟨untouched, notComplete⟩)
  have incomplete (parsed : (ctx.receive data.length).parseIncomplete firmware keyCache data =
      some (code, next)) :
      ctx.acceptsHeader firmware data = true ∨ ctx.startsFooter data = true ∨
        Untouched device next ∧ code ≠ .dataTransferComplete := by
    rw [parseIncomplete] at parsed
    split at parsed
    · exact error received (by decide) parsed
    · rename_i fits
      dsimp only at parsed
      split at parsed
      · rename_i complete
        refine whole _ ?_ parsed
        rw [wholePart, if_pos (by exact complete), if_neg]
        · rfl
        · exact fun large => fits large.2
      · exact error (received.withIncomplete _) complete_ne_success.symm parsed
  rw [UpgradeCtx.parse] at parsed
  split at parsed
  · exact error received (by decide) parsed
  split at parsed
  · exact incomplete parsed
  rename_i empty
  have nothing : ctx.incompleteData = [] := not_not.mp empty
  split at parsed
  · rename_i complete
    have emptied : (ctx.receive data.length).withIncomplete [] = ctx.receive data.length := by
      rw [← nothing]
      rfl
    refine whole data ?_ (by rw [emptied]; exact parsed)
    rw [wholePart, if_pos (by exact complete), if_neg (fun begun => begun.1 nothing), nothing]
    rfl
  · rw [parsePart_of_collects (by exact collects)] at parsed
    exact incomplete parsed

theorem Untouched.parseEach {packets : Packets} {codes : List HostErrorCode}
    (guarded : ctx.footerAfterHeader firmware packets = true)
    (parsed : ctx.parseEach firmware packets = some (codes, next))
    (notAccepted : ctx.accepted firmware packets = false) :
    Untouched device next ∧ .dataTransferComplete ∉ codes := by
  induction packets generalizing ctx codes with
  | nil =>
    cases parsed
    exact ⟨untouched, List.not_mem_nil⟩
  | cons packet packets ih =>
    obtain ⟨keyCache, data⟩ := packet
    rw [UpgradeCtx.parseEach] at parsed
    obtain ⟨⟨code, after⟩, parsedFirst, rest⟩ := Option.bind_eq_some_iff.mp parsed
    obtain ⟨⟨codesRest, last⟩, parsedRest, same⟩ := Option.map_eq_some_iff.mp rest
    cases same
    rw [accepted, parsedFirst, Bool.or_eq_false_iff] at notAccepted
    rw [footerAfterHeader, parsedFirst, notAccepted.1, Bool.false_or, Bool.and_eq_true,
      Bool.not_eq_true'] at guarded
    rcases untouched.parse parsedFirst with accepts | footer | ⟨untouched', notComplete⟩
    · exact Bool.noConfusion (notAccepted.1.symm.trans accepts)
    · exact Bool.noConfusion (guarded.1.symm.trans footer)
    · obtain ⟨untouchedLast, notIn⟩ := ih untouched' guarded.2 parsedRest notAccepted.2
      refine ⟨untouchedLast, fun inCodes => ?_⟩
      rcases List.mem_cons.mp inCodes with here | inRest
      · exact notComplete here.symm
      · exact notIn inRest

end

/-- Until a main header is accepted, no partition is opened or written, only the keys of the
header store are, and no transfer is complete, as long as no footer comes before. -/
theorem untouched_until_accepted {packets : Packets} {codes : List HostErrorCode}
    (guarded : device.partitionDataInit.footerAfterHeader firmware packets = true)
    (parsed : device.partitionDataInit.parseEach firmware packets = some (codes, next))
    (notAccepted : device.partitionDataInit.accepted firmware packets = false) :
    next.flash = device.flash ∧
      (∀ key, key < dfuHeaderPskeyStart ∨ dfuHeaderPskeyEnd < key →
        next.headerStore.psKeys key = device.headerStore.psKeys key) ∧
      .dataTransferComplete ∉ codes := by
  obtain ⟨untouched, notComplete⟩ :=
    (untouched_partitionDataInit device).parseEach guarded parsed notAccepted
  exact ⟨untouched.flash, untouched.psKeys, notComplete⟩

end Steps

theorem untouched_until_accepted_partition :
    ∃ codes next, plainDevice.partitionDataInit.parseEach plainFirmware
        [(List.replicate 64 0, partitionID ++ [0, 0, 0, 16])] = some (codes, next) ∧
      next.flash = [] ∧ .dataTransferComplete ∉ codes := by
  have parsed : (plainDevice.partitionDataInit.parseEach plainFirmware
      [(List.replicate 64 0, partitionID ++ [0, 0, 0, 16])]).map Prod.fst =
        some [.badLengthUpgradeHeader] := by
    decide
  obtain ⟨⟨codes, next⟩, parsed', _⟩ := Option.map_eq_some_iff.mp parsed
  obtain ⟨flash, _, notComplete⟩ := untouched_until_accepted (by decide) parsed' (by decide)
  exact ⟨codes, next, parsed', flash, notComplete⟩

/-- A footer alone is a complete transfer, and is saved in keys 0 and up. -/
theorem footer_without_header :
    ¬ ∀ (packets : Packets) (codes : List HostErrorCode) (next : UpgradeCtx),
      plainDevice.partitionDataInit.parseEach plainFirmware packets = some (codes, next) →
      plainDevice.partitionDataInit.accepted plainFirmware packets = false →
      next.flash = plainDevice.flash ∧
        (∀ key, key < dfuHeaderPskeyStart ∨ dfuHeaderPskeyEnd < key →
          next.headerStore.psKeys key = plainDevice.headerStore.psKeys key) ∧
        .dataTransferComplete ∉ codes := by
  intro untouched
  obtain ⟨packets, isPackets⟩ : ∃ packets : Packets,
      [(List.replicate 64 0, footerID ++ [0, 0, 1, 0]),
        (List.replicate 64 0, List.replicate expectedSignatureSize 0)] = packets := ⟨_, rfl⟩
  have parsed : (plainDevice.partitionDataInit.parseEach plainFirmware packets).map Prod.fst =
      some [.success, .dataTransferComplete] := by
    rw [← isPackets]
    decide +kernel
  have notAccepted : plainDevice.partitionDataInit.accepted plainFirmware packets = false := by
    rw [← isPackets]
    decide +kernel
  obtain ⟨⟨codes, next⟩, parsed', rfl⟩ := Option.map_eq_some_iff.mp parsed
  exact (untouched packets _ next parsed' notAccepted).2.2
    (List.mem_cons_of_mem _ List.mem_cons_self)

end UpgradeCtx

end HeadsetAdk.Upgrade
