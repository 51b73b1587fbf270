import HeadsetAdk.Lib.Blocks
import HeadsetAdk.Lib.LittleEndian

/-!
# PSS verification

The verification of `secrsa_padding.c`.  The hash and the allocations are those of the platform, and
both succeed; an access outside of a block of memory has no result.
-/

namespace HeadsetAdk.Rsa

open Blocks

abbrev Bytes := List UInt8

/-- The results of the verification. -/
inductive CeStatus
  | success
  | failure
  | invalidArg
  | invalidSignature
  deriving DecidableEq, Repr

def pmallocPoolBlockSize : UInt32 := 220

/-- `MAX_DER_HEADER_LEN`, the length of the hash. -/
def maxDerHeaderLen : UInt32 := 32

section MaskGeneration

/-- `i2osp`: the bytes of a counter in the opposite order. -/
def i2osp (counter : Nat → UInt8) (len : Nat) : Bytes :=
  (List.range len).map fun i => counter (len - 1 - i)

variable (sha256 : Bytes → Vector UInt8 32)

def mgf1Piece (seed : Bytes) (masklen i : Nat) (counter : UInt32) : Bytes :=
  let digest := sha256 (seed ++ i2osp (LittleEndian.byte counter.toNat) 4)
  if i + 32 ≤ masklen then digest.toList
  else digest.toList.take (32 - (i + 32 - masklen))

/-- The loop of `ce_pkcs1_mgf1`, which writes the mask into a block from a place on. -/
def mgf1Loop (seed : Bytes) (mask masklen i : Nat) (counter : UInt32) (block : Bytes) :
    Option Bytes :=
  if i < masklen then do
    let block ← store block (mask + i) (mgf1Piece sha256 seed masklen i counter)
    mgf1Loop seed mask masklen (i + 32) (counter + 1) block
  else some block
termination_by masklen - i

def cePkcs1Mgf1 (seed : Bytes) (mask masklen : Nat) (block : Bytes) :
    Option (CeStatus × Bytes) :=
  if seed.length = 0 ∨ masklen = 0 then some (.invalidArg, block)
  else (mgf1Loop sha256 seed mask masklen 0 0 block).map (CeStatus.success, ·)

end MaskGeneration

/-- The parameters of a verification. -/
structure PssInput where
  msghash : Bytes
  msghashlen : UInt32
  sig : Bytes
  siglen : UInt32
  saltlen : UInt32
  modulusBitlen : UInt32

namespace PssInput

variable (input : PssInput)

def modulusLen : UInt32 :=
  (input.modulusBitlen >>> 3) + if input.modulusBitlen &&& 7 ≠ 0 then 1 else 0

/-- The bits of the first byte that belong to the encoded message. -/
def topMask : UInt32 :=
  (0xFF : UInt32) >>> ((input.modulusLen <<< 3) - (input.modulusBitlen - 1))

/-- `DBlen`, which is also `maskedDBlen`. -/
def dbLen : UInt32 := input.modulusLen - maxDerHeaderLen - 1

def psLen : UInt32 := input.modulusLen - maxDerHeaderLen - input.saltlen - 2

def mLen : UInt32 := 8 + input.msghashlen + input.saltlen

/-- The condition of the two checks of sizes. -/
def TooShort : Prop :=
  input.siglen < input.modulusLen ∨
    input.siglen < maxDerHeaderLen + input.saltlen + 2 ∨
    input.modulusLen < maxDerHeaderLen + input.saltlen + 2

instance : Decidable input.TooShort := inferInstanceAs (Decidable (_ ∨ _))

end PssInput

section Verification

/-- The loop that makes `DB` of the mask in its place, with some bytes left. -/
def unmaskLoop (maskedDB : Bytes) (db : Nat) : Nat → Nat → Bytes → Option Bytes
  | 0, _, block => some block
  | left + 1, i, block => do
      let masked ← maskedDB[i]?
      let mask ← block[db + i]?
      let block ← store block (db + i) [masked ^^^ mask]
      unmaskLoop maskedDB db left (i + 1) block

/-- The masking of the first byte of `DB`. -/
def clearTop (mask : UInt32) (db : Nat) (block : Bytes) : Option Bytes := do
  let first ← block[db]?
  store block db [(first.toUInt32 &&& mask).toUInt8]

def paddingLoop (block : Bytes) (db : Nat) : Nat → Nat → Option Bool
  | 0, _ => some true
  | left + 1, i => do
      let byte ← block[db + i]?
      if byte ≠ 0 then some false else paddingLoop block db left (i + 1)

variable (sha256 : Bytes → Vector UInt8 32) (malloc : (size : Nat) → Vector UInt8 size)
variable (input : PssInput)

/-- The block of memory that holds the mask, and the place of the mask in it.  A long salt
shares its block with `M'`. -/
def dbMaskBlock : Bytes × Nat :=
  if input.saltlen < pmallocPoolBlockSize then ((malloc input.dbLen.toNat).toList, 0)
  else
    let mLen := 8 + input.msghashlen + input.dbLen
    ((malloc mLen.toNat).toList, (mLen - input.dbLen).toUInt8.toNat)

/-- `M'` in a block of its own. -/
def exclusiveMessage (block : Bytes) (salt : Nat) : Option Bytes := do
  let m ← store (malloc input.mLen.toNat).toList 0 (List.replicate input.mLen.toNat 0)
  let msghash ← slice input.msghash 0 input.msghashlen.toNat
  let m ← store m 8 msghash
  let salt ← slice block salt input.saltlen.toNat
  store m (8 + input.msghashlen).toNat salt

/-- `M'` in the block of `DB`, where the salt is moved. -/
def combinedMessage (block : Bytes) (salt : Nat) : Option Bytes := do
  let m ← store block 0 (List.replicate (8 + input.msghashlen).toNat 0)
  let msghash ← slice input.msghash 0 input.msghashlen.toNat
  let m ← store m 8 msghash
  let salt ← slice m salt input.saltlen.toNat
  store m (8 + input.msghashlen).toNat salt

/-- The block that holds `M'`. -/
def messageBlock (block : Bytes) (salt : Nat) : Option Bytes :=
  if input.saltlen < pmallocPoolBlockSize then exclusiveMessage malloc input block salt
  else combinedMessage input block salt

/-- The comparison of the hash of `M'`. -/
def checkHash (hash_ block : Bytes) (salt : Nat) : Option CeStatus := do
  let block ← messageBlock malloc input block salt
  let m ← slice block 0 input.mLen.toNat
  if (sha256 m).toList ≠ hash_ then some .invalidSignature else some .success

/-- The checks of what `DB` holds. -/
def checkDb (hash_ block : Bytes) (db : Nat) : Option CeStatus := do
  let zero ← paddingLoop block db input.psLen.toNat 0
  if zero = false then some .invalidSignature
  else do
    let byte ← block[db + input.psLen.toNat]?
    if byte ≠ 0x01 then some .invalidSignature
    else checkHash sha256 malloc input hash_ block (db + (input.psLen + 1).toNat)

/-- The making of `DB` and its checks. -/
def checkMasked : Option CeStatus := do
  let hash_ ← slice input.sig input.dbLen.toNat maxDerHeaderLen.toNat
  let dbMask := dbMaskBlock malloc input
  let mgf1 ← cePkcs1Mgf1 sha256 hash_ dbMask.2 input.dbLen.toNat dbMask.1
  if mgf1.1 ≠ .success then some .failure
  else do
    let block ← unmaskLoop input.sig dbMask.2 input.dbLen.toNat 0 mgf1.2
    let block ← clearTop input.topMask dbMask.2 block
    checkDb sha256 malloc input hash_ block dbMask.2

def checkEnds : Option CeStatus := do
  let last ← input.sig[(input.siglen - 1).toNat]?
  if last ≠ 0xBC then some .invalidSignature
  else do
    let first ← input.sig[0]?
    if first.toUInt32 &&& ~~~input.topMask ≠ 0 then some .invalidSignature
    else checkMasked sha256 malloc input

def cePkcs1PssPaddingVerify : Option CeStatus :=
  if input.msghashlen = 0 ∨ input.siglen = 0 then some .invalidArg
  else if input.TooShort then some .invalidSignature
  else checkEnds sha256 malloc input

end Verification

end HeadsetAdk.Rsa
