import Mathlib.Logic.Function.Basic

/-!
# The store of the file headers

`UpgradeSaveHeaderInPSKeys`, which keeps the headers in ten persistent store keys of 64 bytes, and
the functions of `upgrade_reboot_handler.c` that read the keys again.
-/

namespace HeadsetAdk.Upgrade

/-- The codes of `UpgradeHostErrorCode` that the functions below return. -/
inductive HostErrorCode
  | success
  | oemValidationFailedPartitionHeader1
  | partitionSizeMismatch
  | oemValidationFailedMemory
  | wrongVariant
  | partitionOpenFailed
  | partitionWriteFailedData
  | partitionTypeNotMatching
  | partitionCloseFailed
  | partitionCloseFailedPsSpace
  | unknownId
  | badLengthUpgradeHeader
  | badLengthPartitionHeader
  | wrongPartitionNumber
  | badLengthSignature
  | badLengthDatahdrResume
  | badLengthPartitionParse
  | badLengthTooShort
  | noMemory
  | internalError3
  | warnAppConfigVersionIncompatible
  | dataTransferComplete
  deriving DecidableEq, Repr

def pskeyMaxStorageLengthInBytes : Nat := 64

def dfuHeaderPskeyStart : Nat := 510

def dfuHeaderPskeyLen : Nat := 10

def dfuHeaderPskeyEnd : Nat := dfuHeaderPskeyStart + dfuHeaderPskeyLen - 1

/-- The persistent store: the bytes of each key, which are whole words. -/
abbrev PsKeys := Nat → List UInt8

structure HeaderStore where
  psKeys : PsKeys
  dfuHeaderPskey : Nat
  dfuHeaderPskeyOffset : Nat

/-- Whether `PsStore` finds room for these bytes. -/
abbrev StoreRoom := PsKeys → Nat → List UInt8 → Bool

def bytesToWords (bytes : Nat) : Nat := (bytes + 1) >>> 1

def copyInto (buffer : List UInt8) (offset : Nat) (bytes : List UInt8) : List UInt8 :=
  buffer.take offset ++ (bytes ++ buffer.drop (offset + bytes.length))

namespace HeaderStore

/-- How much of the data goes into the key that is written now. -/
def dataWriteSize (store : HeaderStore) (data : List UInt8) : Nat :=
  if store.dfuHeaderPskeyOffset + data.length > pskeyMaxStorageLengthInBytes then
    pskeyMaxStorageLengthInBytes - store.dfuHeaderPskeyOffset
  else data.length

/-- `keyCache` after the key has been read into it. -/
def retrieve (store : HeaderStore) (keyCache : List UInt8) : List UInt8 :=
  copyInto keyCache 0 (store.psKeys store.dfuHeaderPskey)

def needsWrite (store : HeaderStore) (data : List UInt8) : Bool :=
  store.dfuHeaderPskeyOffset + store.dataWriteSize data >
    ((store.psKeys store.dfuHeaderPskey).length / 2) <<< 1

/-- `keyCache` with the data at its place. -/
def fillCache (store : HeaderStore) (keyCache data : List UInt8) : List UInt8 :=
  copyInto (store.retrieve keyCache) store.dfuHeaderPskeyOffset
    (data.take (store.dataWriteSize data))

def stored (store : HeaderStore) (keyCache data : List UInt8) : List UInt8 :=
  (store.fillCache keyCache data).take
    (2 * bytesToWords (store.dfuHeaderPskeyOffset + store.dataWriteSize data))

/-- The place behind the data, which may be the end of the key. -/
def advance (store : HeaderStore) (psKeys : PsKeys) (size : Nat) : HeaderStore :=
  { store with psKeys := psKeys, dfuHeaderPskeyOffset := store.dfuHeaderPskeyOffset + size }

def nextKey (store : HeaderStore) : HeaderStore :=
  if store.dfuHeaderPskeyOffset = pskeyMaxStorageLengthInBytes then
    { store with dfuHeaderPskey := store.dfuHeaderPskey + 1, dfuHeaderPskeyOffset := 0 }
  else store

def outOfKeys (store : HeaderStore) : Bool :=
  store.dfuHeaderPskeyOffset = pskeyMaxStorageLengthInBytes ∧
    store.dfuHeaderPskey + 1 > dfuHeaderPskeyEnd

/-- The loop of `UpgradeSaveHeaderInPSKeys`, at most `rounds` times round.  `keyCache` is a
local array that nobody initialises; a key that is longer runs over its end. -/
def saveLoop (room : StoreRoom) :
    Nat → List UInt8 → HeaderStore → List UInt8 → Option (HostErrorCode × HeaderStore)
  | 0, _, _, _ => none
  | rounds + 1, keyCache, store, data =>
      if (store.psKeys store.dfuHeaderPskey).length > pskeyMaxStorageLengthInBytes then none
      else
        let size := store.dataWriteSize data
        let writes := store.needsWrite data
        let bytes := store.stored keyCache data
        if writes = true ∧ room store.psKeys store.dfuHeaderPskey bytes = false then
          some (.partitionWriteFailedData, store)
        else
          let cache := if writes = true then store.fillCache keyCache data
            else store.retrieve keyCache
          let psKeys := if writes = true then
              Function.update store.psKeys store.dfuHeaderPskey bytes
            else store.psKeys
          let advanced := store.advance psKeys size
          if advanced.outOfKeys = true then some (.noMemory, advanced.nextKey)
          else if data.drop size = [] then some (.success, advanced.nextKey)
          else saveLoop room rounds cache advanced.nextKey (data.drop size)

/-- `UpgradeSaveHeaderInPSKeys`.  Each round but the last fills a key, so there are enough. -/
def saveHeaderInPSKeys (room : StoreRoom) (keyCache : List UInt8) (store : HeaderStore)
    (data : List UInt8) : Option (HostErrorCode × HeaderStore) :=
  saveLoop room (data.length + 1) keyCache store data

end HeaderStore

/-- `upgrade_reboot_handler_context_t`, as far as it is about the keys.  `pskey` is the key
behind the one that is in the cache, or zero before the first one is read. -/
structure RebootHandlerContext where
  keyCache : List UInt8
  pskey : Nat
  pskeyOffset : Nat
  pskeyLen : Nat
  deriving DecidableEq, Repr

namespace RebootHandlerContext

def loadNextPskey (psKeys : PsKeys) (context : RebootHandlerContext) :
    Bool × RebootHandlerContext :=
  if context.pskey ≠ 0 ∧ (context.pskeyLen < pskeyMaxStorageLengthInBytes ∨
      context.pskey > dfuHeaderPskeyEnd) then (false, context)
  else
    let pskey := if context.pskey = 0 then dfuHeaderPskeyStart else context.pskey
    if (psKeys pskey).length / 2 ≠ 0 then
      (true,
        { keyCache := copyInto context.keyCache 0 (psKeys pskey)
          pskey := pskey + 1
          pskeyOffset := 0
          pskeyLen := ((psKeys pskey).length / 2) <<< 1 })
    else (false, { context with pskey := pskey, pskeyLen := (psKeys pskey).length / 2 })

/-- The loop of `readHeaderPskey`, at most `rounds` times round: whether there were enough
bytes, those that were read, and the context. -/
def readLoop (psKeys : PsKeys) :
    Nat → RebootHandlerContext → Nat → Option (Bool × List UInt8 × RebootHandlerContext)
  | 0, _, _ => none
  | rounds + 1, context, size =>
      if size = 0 then some (true, [], context)
      else
        let (loaded, context) :=
          if context.pskeyOffset = context.pskeyLen then context.loadNextPskey psKeys
          else (true, context)
        if loaded = true then
          let diff := min size (context.pskeyLen - context.pskeyOffset)
          let copied := (context.keyCache.drop context.pskeyOffset).take diff
          (readLoop psKeys rounds { context with pskeyOffset := context.pskeyOffset + diff }
            (size - diff)).map fun (successful, bytes, context) =>
              (successful, copied ++ bytes, context)
        else some (false, [], context)

/-- `readHeaderPskey`.  Each round but the last reads a byte at least. -/
def readHeaderPskey (psKeys : PsKeys) (context : RebootHandlerContext) (size : Nat) :
    Option (Bool × List UInt8 × RebootHandlerContext) :=
  let (loaded, first) :=
    if context.pskey = 0 then context.loadNextPskey psKeys else (true, context)
  if loaded = true then
    (readLoop psKeys (size + 1) first size).map fun (successful, bytes, after) =>
      if successful = true then (true, bytes, after)
      else
        (false, bytes, { after with pskey := context.pskey, pskeyOffset := context.pskeyOffset })
  else some (false, [], first)

/-- Reads one behind the other, while they succeed. -/
def readHeaders (psKeys : PsKeys) :
    RebootHandlerContext → List Nat → Option (List (List UInt8))
  | _, [] => some []
  | context, size :: sizes =>
      (readHeaderPskey psKeys context size).bind fun (successful, bytes, context) =>
        if successful = true then
          (readHeaders psKeys context sizes).map fun pieces => bytes :: pieces
        else none

end RebootHandlerContext

end HeadsetAdk.Upgrade
