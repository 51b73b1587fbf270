import HeadsetAdk.Lib.EmsaPss
import HeadsetAdk.Rsa.PssPadding

/-! # What the PSS verification accepts -/

namespace HeadsetAdk.Rsa

open List (length_take length_append append_assoc take_append_drop length_drop append_nil
  length_nil nil_append length_replicate)
open Option (bind_eq_bind bind_some)
open UInt32 (toNat_and toNat_sub toNat_add)
open Blocks
open Pkcs1 (dataBlock length_mgf1 maskedBlock mgf1 trailingHash)

variable (sha256 : Bytes → Vector UInt8 32)

theorem i2osp_byte (x len : Nat) : i2osp (LittleEndian.byte x) len = Pkcs1.i2osp x len := by
  induction len generalizing x with
  | zero => rfl
  | succ len induction =>
    rw [Pkcs1.i2osp, ← induction, i2osp, i2osp, List.range_succ, List.map_append]
    congr 1
    · apply List.map_congr_left
      intro i inside
      have within := List.mem_range.mp inside
      have place : len + 1 - 1 - i = len - 1 - i + 1 := by omega
      rw [place, LittleEndian.byte, LittleEndian.byte, pow_succ', Nat.div_div_eq_div_mul]
    · rw [List.map_singleton, LittleEndian.byte, Nat.add_sub_cancel, Nat.sub_self, pow_zero,
        Nat.div_one]

theorem mgf1Piece_eq (seed : Bytes) {masklen counter : Nat} (inside : 32 * counter < masklen)
    (small : counter < 2 ^ 32) :
    mgf1Piece sha256 seed masklen (32 * counter) (UInt32.ofNat counter) =
      (sha256 (seed ++ Pkcs1.i2osp counter 4)).toList.take (masklen - 32 * counter) := by
  have sized : (sha256 (seed ++ Pkcs1.i2osp counter 4)).toList.length = 32 := Vector.length_toList
  rw [mgf1Piece, UInt32.toNat_ofNat_of_lt' small, i2osp_byte]
  split
  · rw [List.take_of_length_le]
    omega
  · congr 1
    omega

theorem mgf1Loop_spec (seed before area : Bytes) {masklen : Nat} (sized : area.length = masklen)
    (small : masklen < 2 ^ 32) (counter : Nat) :
    mgf1Loop sha256 seed before.length masklen (32 * counter) (UInt32.ofNat counter)
        (before ++ area) =
      some (before ++ area.take (32 * counter) ++
        (mgf1 sha256 seed masklen).drop (32 * counter)) := by
  rw [mgf1Loop]
  have full := length_mgf1 sha256 (by decide) seed masklen
  split
  · rename_i inside
    have next : UInt32.ofNat counter + 1 = UInt32.ofNat (counter + 1) := by
      rw [UInt32.ofNat_add]
      rfl
    set piece := (sha256 (seed ++ Pkcs1.i2osp counter 4)).toList.take (masklen - 32 * counter)
      with isPiece
    have pieceLength : piece.length = min 32 (masklen - 32 * counter) := by
      rw [isPiece, length_take, Vector.length_toList, Nat.min_comm]
    have written := Pkcs1.drop_mgf1 sha256 (by decide) seed inside
    have stored : store (before ++ area) (before.length + 32 * counter) piece =
        some (before ++ (area.take (32 * counter) ++ piece ++
          area.drop (32 * counter + piece.length))) := by
      have place : before.length + 32 * counter = (before ++ area.take (32 * counter)).length := by
        rw [length_append, length_take, Nat.min_eq_left (by omega)]
      have parts : before ++ area = before ++ area.take (32 * counter) ++
          (area.drop (32 * counter)).take piece.length ++
            area.drop (32 * counter + piece.length) := by
        rw [← List.drop_drop, append_assoc, append_assoc, take_append_drop, take_append_drop]
      have old : ((area.drop (32 * counter)).take piece.length).length = piece.length := by
        rw [length_take, length_drop]
        omega
      rw [parts, place, store_append old]
      simp only [append_assoc]
    rw [mgf1Piece_eq sha256 seed inside (by omega), stored, bind_eq_bind, bind_some, next]
    have kept : (area.take (32 * counter) ++ piece ++
        area.drop (32 * counter + piece.length)).take (32 * (counter + 1)) =
          area.take (32 * counter) ++ piece := by
      have firstLength : (area.take (32 * counter) ++ piece).length =
          min (32 * (counter + 1)) masklen := by
        rw [length_append, length_take]
        omega
      rw [List.take_append, List.take_of_length_le (by omega)]
      apply List.append_right_eq_self.mpr
      apply List.eq_nil_of_length_eq_zero
      rw [length_take, length_drop]
      omega
    have resized : (area.take (32 * counter) ++ piece ++
        area.drop (32 * counter + piece.length)).length = masklen := by
      rw [length_append, length_append, length_take, length_drop]
      omega
    have rest := mgf1Loop_spec seed before _ resized small (counter + 1)
    have following : 32 * counter + 32 = 32 * (counter + 1) := rfl
    rw [following, rest, kept, written, ← isPiece]
    simp only [append_assoc]
  · rename_i outside
    rw [List.take_of_length_le (by omega), List.drop_eq_nil_of_le (by omega), append_nil]
termination_by masklen - 32 * counter

theorem cePkcs1Mgf1_spec {seed before area : Bytes} (hasSeed : seed ≠ []) (hasArea : area ≠ [])
    (small : area.length < 2 ^ 32) :
    cePkcs1Mgf1 sha256 seed before.length area.length (before ++ area) =
      some (.success, before ++ mgf1 sha256 seed area.length) := by
  have loop := mgf1Loop_spec sha256 seed before area rfl small 0
  rw [List.take_zero, append_nil] at loop
  have proceeds : ¬(seed.length = 0 ∨ area.length = 0) := by
    rw [List.length_eq_zero_iff, List.length_eq_zero_iff, not_or]
    exact ⟨hasSeed, hasArea⟩
  rw [cePkcs1Mgf1, if_neg proceeds]
  exact congrArg (Option.map _) loop

theorem read_middle (before done left : Bytes) (byte : UInt8) :
    (before ++ (done ++ byte :: left))[before.length + done.length]? = some byte := by
  rw [getElem?_behind, List.getElem?_append_right (Nat.le_refl _), Nat.sub_self]
  rfl

theorem write_middle (before done left : Bytes) (old byte : UInt8) :
    store (before ++ (done ++ old :: left)) (before.length + done.length) [byte] =
      some (before ++ (done ++ byte :: left)) := by
  have same : [old].length = [byte].length := rfl
  have stored := store_append same (before ++ done) left
  rw [length_append] at stored
  simpa only [append_assoc, List.singleton_append] using stored

theorem unmaskLoop_spec (before front rest : Bytes) {masked mask : Bytes}
    (same : masked.length = mask.length) (done : Bytes) (aligned : front.length = done.length) :
    unmaskLoop (front ++ masked ++ rest) before.length masked.length done.length
        (before ++ (done ++ mask)) =
      some (before ++ (done ++ List.zipWith (· ^^^ ·) masked mask)) := by
  induction masked generalizing front mask done with
  | nil =>
    rw [List.eq_nil_of_length_eq_zero same.symm]
    rfl
  | cons first masked induction =>
    cases mask with
    | nil => contradiction
    | cons octet mask =>
      have source : (front ++ first :: masked ++ rest)[done.length]? = some first := by
        rw [append_assoc, ← aligned, List.getElem?_append_right (Nat.le_refl _), Nat.sub_self]
        rfl
      have tails : masked.length = mask.length := Nat.succ.inj same
      have next := induction (front ++ [first]) tails (done ++ [first ^^^ octet])
        (by rw [length_append, length_append, aligned]; rfl)
      rw [length_append] at next
      simp only [append_assoc, List.singleton_append, List.length_singleton] at next
      rw [List.length_cons, unmaskLoop, source, bind_eq_bind, bind_some,
        read_middle, bind_eq_bind, bind_some, write_middle,
        bind_some, List.zipWith_cons_cons, append_assoc]
      exact next

theorem paddingLoop_spec (before area : Bytes) (left i : Nat)
    (inside : i + left ≤ area.length) :
    paddingLoop (before ++ area) before.length left i =
      some (((area.drop i).take left).all fun octet => octet == 0) := by
  induction left generalizing i with
  | zero => simp [paddingLoop]
  | succ left induction =>
    have within : i < area.length := by omega
    rw [paddingLoop, getElem?_behind, List.getElem?_eq_getElem within, bind_eq_bind,
      bind_some, List.drop_eq_getElem_cons within, List.take_succ_cons]
    split
    · rename_i different
      rw [List.all_cons, beq_eq_false_iff_ne.mpr different, Bool.false_and]
    · rename_i zero
      rw [induction (i + 1) (by omega)]
      rw [List.all_cons, not_not.mp zero, beq_self_eq_true, Bool.true_and]

section Sizes

/-- A hash and a signature in memory, with as many bits in the signature as in the modulus. -/
structure PssInput.Complete (input : PssInput) : Prop where
  hashLength : input.msghash.length = 32
  isHashlen : input.msghashlen = 32
  sigLength : input.sig.length = input.siglen.toNat
  isModulus : input.modulusBitlen.toNat = 8 * input.siglen.toNat

variable {input : PssInput} (complete : input.Complete)
include complete

theorem siglen_lt : input.siglen.toNat < 2 ^ 29 := by
  have bound := input.modulusBitlen.toNat_lt
  have modulus := complete.isModulus
  omega

theorem modulusLen_eq : input.modulusLen = input.siglen := by
  have modulus := complete.isModulus
  have bound := input.modulusBitlen.toNat_lt
  have whole : input.modulusBitlen &&& 7 = 0 := by
    apply UInt32.toNat_inj.mp
    have mask : (7 : UInt32).toNat = 2 ^ 3 - 1 := by decide
    rw [toNat_and, mask, Nat.and_two_pow_sub_one_eq_mod, modulus]
    exact Nat.mul_mod_right 8 _
  apply UInt32.toNat_inj.mp
  have amount : (3 : UInt32).toNat % 32 = 3 := by decide
  rw [PssInput.modulusLen, if_neg (not_not.mpr whole), UInt32.add_zero, UInt32.toNat_shiftRight,
    amount, Nat.shiftRight_eq_div_pow, modulus]
  omega

theorem topMask_eq : input.topMask = 0x7F := by
  have modulus := complete.isModulus
  have bound := input.modulusBitlen.toNat_lt
  have bits : input.siglen <<< 3 = input.modulusBitlen := by
    apply UInt32.toNat_inj.mp
    have amount : (3 : UInt32).toNat % 32 = 3 := by decide
    rw [UInt32.toNat_shiftLeft, amount, Nat.shiftLeft_eq, modulus]
    omega
  have one : input.modulusBitlen - (input.modulusBitlen - 1) = 1 := by
    rw [sub_sub_cancel]
  rw [PssInput.topMask, modulusLen_eq complete, bits, one]
  rfl

theorem dbLen_toNat : input.dbLen.toNat = (input.siglen.toNat + 2 ^ 32 - 33) % 2 ^ 32 := by
  have bound := siglen_lt complete
  have header : maxDerHeaderLen.toNat = 32 := rfl
  have one : (1 : UInt32).toNat = 1 := rfl
  rw [PssInput.dbLen, modulusLen_eq complete, toNat_sub, toNat_sub, header, one]
  omega

theorem psLen_toNat :
    input.psLen.toNat = (input.siglen.toNat + 2 ^ 33 - 34 - input.saltlen.toNat) % 2 ^ 32 := by
  have bound := siglen_lt complete
  have saltBound := input.saltlen.toNat_lt
  have header : maxDerHeaderLen.toNat = 32 := rfl
  have two : (2 : UInt32).toNat = 2 := rfl
  rw [PssInput.psLen, modulusLen_eq complete, toNat_sub, toNat_sub, toNat_sub, header, two]
  omega

theorem tooShort_iff :
    input.TooShort ↔ input.siglen.toNat < (input.saltlen.toNat + 34) % 2 ^ 32 := by
  have header : maxDerHeaderLen.toNat = 32 := rfl
  have two : (2 : UInt32).toNat = 2 := rfl
  unfold PssInput.TooShort
  rw [modulusLen_eq complete, UInt32.lt_iff_toNat_lt, UInt32.lt_iff_toNat_lt, toNat_add,
    toNat_add, header, two]
  omega

theorem emLength_eq : Pkcs1.emLength (input.modulusBitlen.toNat - 1) = input.siglen.toNat := by
  have modulus := complete.isModulus
  unfold Pkcs1.emLength
  omega

theorem unusedBits_eq (some_ : input.siglen.toNat ≠ 0) :
    Pkcs1.unusedBits (input.modulusBitlen.toNat - 1) = 1 := by
  have modulus := complete.isModulus
  unfold Pkcs1.unusedBits
  rw [emLength_eq complete]
  omega

end Sizes

section DataBlock

theorem topBit_clear_iff (first : UInt8) :
    first.toUInt32 &&& ~~~0x7F = 0 ↔ first.toNat < 2 ^ (8 - 1) := by
  have all : ∀ value < 256, (UInt8.ofNat value).toUInt32 &&& ~~~0x7F = 0 ↔
      (UInt8.ofNat value).toNat < 2 ^ (8 - 1) := by
    decide +kernel
  have this := all first.toNat first.toNat_lt
  rwa [UInt8.ofNat_toNat] at this

theorem lowBits_eq (first : UInt8) :
    (first.toUInt32 &&& 0x7F).toUInt8 = UInt8.ofNat (first.toNat % 2 ^ (8 - 1)) := by
  apply UInt8.toNat_inj.mp
  have mask : (0x7F : UInt32).toNat = 2 ^ 7 - 1 := by decide
  rw [UInt32.toNat_toUInt8, toNat_and, mask, Nat.and_two_pow_sub_one_eq_mod,
    UInt8.toNat_toUInt32, UInt8.toNat_ofNat']

theorem clearTop_spec (before : Bytes) {area : Bytes} (some_ : area ≠ []) :
    clearTop 0x7F before.length (before ++ area) = some (before ++ Pkcs1.clearLeftmost 1 area) := by
  cases area with
  | nil => contradiction
  | cons first area =>
    have first_ := read_middle before [] area first
    have written := write_middle before [] area first (first.toUInt32 &&& 0x7F).toUInt8
    rw [length_nil, Nat.add_zero, nil_append] at first_ written
    rw [clearTop, first_, bind_eq_bind, bind_some, written, lowBits_eq]
    rfl

variable (malloc : (size : Nat) → Vector UInt8 size)
variable {input : PssInput} (complete : input.Complete)
include complete

/-- The place of the mask is at the end of its block, behind the room for the start of `M'` if
the salt is long. -/
theorem dbMaskBlock_spec (large : 33 ≤ input.siglen.toNat) :
    ∃ before area : Bytes, dbMaskBlock malloc input = (before ++ area, before.length) ∧
      before.length = (if input.saltlen < pmallocPoolBlockSize then 0 else 40) ∧
      area.length = input.siglen.toNat - 33 := by
  have dbLen := dbLen_toNat complete
  have bound := siglen_lt complete
  unfold dbMaskBlock
  split
  · refine ⟨[], (malloc input.dbLen.toNat).toList, rfl, rfl, ?_⟩
    rw [Vector.length_toList]
    omega
  · have mLen : (8 + input.msghashlen + input.dbLen).toNat = 40 + (input.siglen.toNat - 33) := by
      have header : (8 + 32 : UInt32).toNat = 40 := rfl
      rw [complete.isHashlen, toNat_add, header]
      omega
    have offset : (8 + input.msghashlen + input.dbLen - input.dbLen).toUInt8.toNat = 40 := by
      rw [add_sub_cancel_right, complete.isHashlen]
      rfl
    set block := (malloc (8 + input.msghashlen + input.dbLen).toNat).toList with isBlock
    have blockLength : block.length = 40 + (input.siglen.toNat - 33) := by
      rw [isBlock, Vector.length_toList, mLen]
    refine ⟨block.take 40, block.drop 40, ?_, ?_, ?_⟩
    · rw [take_append_drop, length_take, Nat.min_eq_left (by omega)]
      exact Prod.ext rfl offset
    · rw [length_take]
      omega
    · rw [length_drop]
      omega

omit complete in
theorem length_dataBlock (emBits : Nat) (EM : Bytes) (fits : Pkcs1.emLength emBits ≤ EM.length) :
    (dataBlock sha256 emBits EM).length = Pkcs1.emLength emBits - 32 - 1 := by
  rw [dataBlock, Pkcs1.length_clearLeftmost, List.length_zipWith,
    length_mgf1 sha256 (by decide), maskedBlock, length_take]
  omega

/-- What follows after the mask is taken off. -/
theorem checkMasked_spec (large : 33 < input.siglen.toNat) :
    ∃ before : Bytes, before.length = (if input.saltlen < pmallocPoolBlockSize then 0 else 40) ∧
      checkMasked sha256 malloc input = checkDb sha256 malloc input
          (trailingHash (input.modulusBitlen.toNat - 1) input.sig 32)
          (before ++ dataBlock sha256 (input.modulusBitlen.toNat - 1) input.sig)
          before.length := by
  obtain ⟨before, area, isBlock, placed, areaLength⟩ := dbMaskBlock_spec malloc complete (by omega)
  have bound := siglen_lt complete
  have sigLength := complete.sigLength
  have dbLen : input.dbLen.toNat = input.siglen.toNat - 33 := by
    rw [dbLen_toNat complete]
    omega
  set H := trailingHash (input.modulusBitlen.toNat - 1) input.sig 32 with isH
  have hashPlace : H = (input.sig.drop input.dbLen.toNat).take 32 := by
    rw [isH, trailingHash, emLength_eq complete, dbLen, Nat.sub_sub]
  have seed : slice input.sig input.dbLen.toNat maxDerHeaderLen.toNat = some H := by
    have header : maxDerHeaderLen.toNat = 32 := rfl
    rw [slice, header, if_pos (by omega), hashPlace]
  have hasSeed : H ≠ [] := by
    apply List.ne_nil_of_length_pos
    rw [hashPlace, length_take, length_drop]
    omega
  have hasArea : area ≠ [] := by
    apply List.ne_nil_of_length_pos
    omega
  have sameLength : (input.sig.take area.length).length = (mgf1 sha256 H area.length).length := by
    rw [length_mgf1 sha256 (by decide), length_take]
    omega
  have unmasked := unmaskLoop_spec before [] (input.sig.drop area.length) sameLength [] rfl
  have takenLength : (input.sig.take area.length).length = area.length := by
    rw [length_take]
    omega
  rw [nil_append, nil_append, nil_append, take_append_drop, takenLength, length_nil] at unmasked
  have isData : dataBlock sha256 (input.modulusBitlen.toNat - 1) input.sig =
      Pkcs1.clearLeftmost 1 (List.zipWith (· ^^^ ·) (input.sig.take area.length)
        (mgf1 sha256 H area.length)) := by
    rw [dataBlock, unusedBits_eq complete (by omega), maskedBlock,
      emLength_eq complete, Nat.sub_sub, ← areaLength]
  have hasData : List.zipWith (· ^^^ ·) (input.sig.take area.length)
      (mgf1 sha256 H area.length) ≠ [] := by
    apply List.ne_nil_of_length_pos
    rw [List.length_zipWith, ← sameLength, takenLength]
    omega
  refine ⟨before, placed, ?_⟩
  rw [checkMasked, seed, bind_eq_bind, bind_some, isBlock, dbLen, ← areaLength]
  dsimp only
  rw [cePkcs1Mgf1_spec sha256 hasSeed hasArea (by omega), bind_eq_bind, bind_some,
    if_neg (not_not.mpr rfl), unmasked, bind_some, topMask_eq complete,
    clearTop_spec before hasData, bind_some, isData]

end DataBlock

section Message

variable (malloc : (size : Nat) → Vector UInt8 size) {salt before : Bytes}
variable {input : PssInput} (complete : input.Complete)
include complete

theorem hash_slice : slice input.msghash 0 input.msghashlen.toNat = some input.msghash := by
  have hashlen : input.msghashlen.toNat = input.msghash.length := by
    rw [complete.isHashlen, complete.hashLength]
    rfl
  have sliced := slice_append [] input.msghash []
  rwa [nil_append, append_nil, length_nil, ← hashlen] at sliced

theorem mLen_toNat (fits : input.saltlen.toNat + 34 ≤ input.siglen.toNat) :
    input.mLen.toNat = 40 + input.saltlen.toNat := by
  have bound := siglen_lt complete
  have header : (8 + 32 : UInt32).toNat = 40 := rfl
  rw [PssInput.mLen, complete.isHashlen, toNat_add, header]
  omega

/-- Storing the hash behind the zeros at the start of `M'`. -/
theorem store_hash (after : Bytes) :
    store (List.replicate 40 0 ++ after) 8 input.msghash =
      some (List.replicate 8 0 ++ input.msghash ++ after) := by
  have split : List.replicate 40 (0 : UInt8) = List.replicate 8 0 ++ List.replicate 32 0 := by
    rw [← List.replicate_add]
  have same : (List.replicate 32 (0 : UInt8)).length = input.msghash.length := by
    rw [length_replicate, complete.hashLength]
  have stored := store_append same (List.replicate 8 0) after
  rw [length_replicate] at stored
  rw [split, stored]

theorem store_salt {old : Bytes} (same : old.length = salt.length) (after : Bytes) :
    store (List.replicate 8 0 ++ input.msghash ++ (old ++ after)) 40 salt =
      some (List.replicate 8 0 ++ input.msghash ++ salt ++ after) := by
  have stored := store_append same (List.replicate 8 0 ++ input.msghash) after
  rw [length_append, length_replicate, complete.hashLength] at stored
  rw [← append_assoc]
  exact stored

section

variable (fits : input.saltlen.toNat + 34 ≤ input.siglen.toNat)

include fits

section

variable (placed : before.length = (if input.saltlen < pmallocPoolBlockSize then 0 else 40))

include placed

/-- Both layouts make `M'` of the zeros, the hash and the salt. -/
theorem messageBlock_spec (front : Bytes) (isSalt : salt.length = input.saltlen.toNat) :
    ∃ after : Bytes,
      messageBlock malloc input (before ++ (front ++ salt)) (before.length + front.length) =
        some (List.replicate 8 0 ++ input.msghash ++ salt ++ after) := by
  have mLen := mLen_toNat complete fits
  have header : (8 + input.msghashlen).toNat = 40 := by
    rw [complete.isHashlen]
    rfl
  have readSalt (start : Bytes) :
      slice (start ++ (front ++ salt)) (start.length + front.length) salt.length = some salt := by
    have sliced := slice_append (start ++ front) salt []
    rwa [append_nil, append_assoc, length_append] at sliced
  unfold messageBlock
  split
  · refine ⟨[], ?_⟩
    have cleared : store (malloc input.mLen.toNat).toList 0 (List.replicate input.mLen.toNat 0) =
        some (List.replicate 40 0 ++ (List.replicate salt.length 0 ++ [])) := by
      have same : (malloc input.mLen.toNat).toList.length =
          (List.replicate input.mLen.toNat (0 : UInt8)).length := by
        rw [Vector.length_toList, length_replicate]
      have stored := store_append same [] []
      rw [append_nil, append_nil, nil_append, nil_append] at stored
      rw [append_nil, ← List.replicate_add, isSalt, ← mLen]
      exact stored
    rw [exclusiveMessage, cleared, bind_eq_bind, bind_some, hash_slice complete,
      bind_some, store_hash complete, bind_some, ← isSalt, readSalt,
      bind_some, header, store_salt complete (length_replicate)]
  · rename_i long
    rw [if_neg long] at placed
    have oldLength : ((front ++ salt).take salt.length).length = salt.length := by
      rw [length_take, length_append]
      omega
    obtain ⟨old, after, data, same⟩ :
        ∃ old after, front ++ salt = old ++ after ∧ old.length = salt.length :=
      ⟨_, _, (take_append_drop salt.length _).symm, oldLength⟩
    refine ⟨after, ?_⟩
    have cleared : store (before ++ (front ++ salt)) 0 (List.replicate 40 0) =
        some (List.replicate 40 0 ++ (front ++ salt)) := by
      have same : before.length = (List.replicate 40 (0 : UInt8)).length := by
        rw [placed, length_replicate]
      have stored := store_append same [] (front ++ salt)
      rwa [nil_append, nil_append] at stored
    have kept : before.length + front.length =
        (List.replicate 8 0 ++ input.msghash).length + front.length := by
      rw [placed, length_append, length_replicate, complete.hashLength]
    rw [combinedMessage, header, cleared, bind_eq_bind, bind_some,
      hash_slice complete, bind_some, store_hash complete, bind_some, ← isSalt, kept,
      readSalt, bind_some, data, store_salt complete same]

theorem checkHash_spec (front : Bytes) (isSalt : salt.length = input.saltlen.toNat) (H : Bytes) :
    checkHash sha256 malloc input H (before ++ (front ++ salt)) (before.length + front.length) =
        some .success ↔
      (sha256 (List.replicate 8 0 ++ input.msghash ++ salt)).toList = H := by
  obtain ⟨after, message⟩ := messageBlock_spec malloc complete fits placed front isSalt
  have whole : slice (List.replicate 8 0 ++ input.msghash ++ salt ++ after) 0
      input.mLen.toNat = some (List.replicate 8 0 ++ input.msghash ++ salt) := by
    have sliced := slice_append [] (List.replicate 8 0 ++ input.msghash ++ salt) after
    rw [nil_append, length_append, length_append, length_replicate,
      complete.hashLength, isSalt, length_nil] at sliced
    rw [mLen_toNat complete fits]
    exact sliced
  rw [checkHash, message, bind_eq_bind, bind_some, whole, bind_some]
  split
  · rename_i different
    exact ⟨fun wrong => absurd wrong (by decide), fun same => absurd same different⟩
  · rename_i same
    exact ⟨fun _ => not_not.mp same, fun _ => rfl⟩

theorem checkDb_spec {DB : Bytes} (isData : DB.length = input.siglen.toNat - 33) (H : Bytes) :
    checkDb sha256 malloc input H (before ++ DB) before.length = some .success ↔
      (∀ octet ∈ DB.take (input.siglen.toNat - 32 - input.saltlen.toNat - 2), octet = 0) ∧
        DB[input.siglen.toNat - 32 - input.saltlen.toNat - 2]? = some 1 ∧
        (sha256 (List.replicate 8 0 ++ input.msghash ++
          DB.rtake input.saltlen.toNat)).toList = H := by
  have bound := siglen_lt complete
  have psLen : input.psLen.toNat = input.siglen.toNat - 32 - input.saltlen.toNat - 2 := by
    rw [psLen_toNat complete]
    omega
  have within : input.psLen.toNat < DB.length := by omega
  rw [← psLen, checkDb, paddingLoop_spec before DB _ 0 (by omega), bind_eq_bind,
    bind_some, List.drop_zero, getElem?_behind, List.getElem?_eq_getElem within]
  by_cases zero : ∀ octet ∈ DB.take input.psLen.toNat, octet = 0
  · rw [List.all_eq_true.mpr fun octet member => beq_iff_eq.mpr (zero octet member),
      if_neg (by decide), bind_eq_bind, bind_some]
    by_cases one : DB[input.psLen.toNat] = 1
    · have following : (input.psLen + 1).toNat = input.psLen.toNat + 1 := by
        have one : (1 : UInt32).toNat = 1 := rfl
        rw [toNat_add, one]
        omega
      have frontLength : (DB.take (input.psLen.toNat + 1)).length = (input.psLen + 1).toNat := by
        rw [length_take]
        omega
      have isSalt : DB.drop (input.psLen.toNat + 1) = DB.rtake input.saltlen.toNat := by
        rw [List.rtake]
        congr 1
        omega
      have saltLength : (DB.rtake input.saltlen.toNat).length = input.saltlen.toNat := by
        rw [List.rtake, length_drop]
        omega
      have parts : DB.take (input.psLen.toNat + 1) ++ DB.rtake input.saltlen.toNat = DB := by
        rw [← isSalt, take_append_drop]
      have hashed := checkHash_spec sha256 malloc complete fits placed
        (DB.take (input.psLen.toNat + 1)) saltLength H
      rw [parts, frontLength] at hashed
      rw [if_neg (not_not.mpr one), hashed, one]
      exact ⟨fun same => ⟨zero, rfl, same⟩, fun consistent => consistent.2.2⟩
    · rw [if_pos one]
      exact ⟨fun wrong => absurd wrong (by decide),
        fun consistent => absurd (Option.some.inj consistent.2.1) one⟩
  · have notAll : ((DB.take input.psLen.toNat).all fun octet => octet == 0) = false :=
      Bool.eq_false_iff.mpr fun all =>
        zero fun octet member => beq_iff_eq.mp (List.all_eq_true.mp all octet member)
    rw [notAll, if_pos rfl]
    exact ⟨fun wrong => absurd wrong (by decide), fun consistent => absurd consistent.1 zero⟩

end

end

theorem checkDb_wrapped (wrapped : 2 ^ 32 ≤ input.saltlen.toNat + 34) {DB : Bytes}
    (isData : DB.length = input.siglen.toNat - 33) (H before : Bytes) :
    checkDb sha256 malloc input H (before ++ DB) before.length ≠ some .success := by
  intro success
  have bound := siglen_lt complete
  have saltBound := input.saltlen.toNat_lt
  have psLen := psLen_toNat complete
  have outside : (before ++ DB)[before.length + input.psLen.toNat]? = none := by
    rw [getElem?_behind, List.getElem?_eq_none_iff]
    omega
  rw [checkDb, outside] at success
  cases padding : paddingLoop (before ++ DB) before.length input.psLen.toNat 0 with
  | none =>
    rw [padding] at success
    cases success
  | some zero =>
    rw [padding, bind_eq_bind, bind_some] at success
    split at success
    · exact absurd success (by decide)
    · cases success

end Message

section Verification

variable (malloc : (size : Nat) → Vector UInt8 size)
variable {input : PssInput} (complete : input.Complete)
include complete

theorem checkMasked_wrapped (wrapped : 2 ^ 32 ≤ input.saltlen.toNat + 34) :
    checkMasked sha256 malloc input ≠ some .success := by
  intro success
  have bound := siglen_lt complete
  have sigLength := complete.sigLength
  have dbLen := dbLen_toNat complete
  have header : maxDerHeaderLen.toNat = 32 := rfl
  rcases Nat.lt_trichotomy input.siglen.toNat 33 with short | none_ | large
  · -- The place of the hash is outside of the signature.
    have outside : input.sig.length < input.dbLen.toNat + maxDerHeaderLen.toNat := by omega
    rw [checkMasked, slice_eq_none outside] at success
    cases success
  · -- There is no room for a data block.
    have noData : input.dbLen.toNat = 0 := by omega
    rw [checkMasked, noData] at success
    obtain ⟨hash_, -, success⟩ := Option.bind_eq_some_iff.mp success
    dsimp only at success
    rw [cePkcs1Mgf1, if_pos (Or.inr rfl)] at success
    cases success
  · obtain ⟨before, -, same⟩ := checkMasked_spec sha256 malloc complete large
    rw [same] at success
    refine checkDb_wrapped sha256 malloc complete wrapped ?_ _ before success
    rw [length_dataBlock]
    · rw [emLength_eq complete, Nat.sub_sub]
    · rw [emLength_eq complete]
      omega

theorem checkEnds_spec (some_ : input.siglen.toNat ≠ 0) :
    checkEnds sha256 malloc input = some .success ↔ input.sig.getLast? = some 0xbc ∧
        (∀ first ∈ input.sig.head?, first.toNat < 2 ^ (8 - 1)) ∧
        checkMasked sha256 malloc input = some .success := by
  have sigLength := complete.sigLength
  have last : input.sig[(input.siglen - 1).toNat]? = input.sig.getLast? := by
    have one : (1 : UInt32).toNat = 1 := rfl
    have bound := input.siglen.toNat_lt
    rw [List.getLast?_eq_getElem?, toNat_sub, one]
    congr 1
    omega
  have first : input.sig[0]? = input.sig.head? := List.head?_eq_getElem?.symm
  rw [checkEnds, last, first, topMask_eq complete]
  cases sig : input.sig with
  | nil =>
    rw [sig] at sigLength
    exact absurd sigLength.symm some_
  | cons head rest =>
    rw [List.getLast?_eq_some_getLast (List.cons_ne_nil head rest), List.head?_cons,
      bind_eq_bind, bind_some, bind_some, Option.some_inj]
    split
    · rename_i different
      exact ⟨fun wrong => absurd wrong (by decide), fun ends => absurd ends.1 different⟩
    · rename_i trailer
      split
      · rename_i set_
        rw [Ne, topBit_clear_iff] at set_
        exact ⟨fun wrong => absurd wrong (by decide), fun ends => absurd (ends.2.1 head rfl) set_⟩
      · rename_i clear
        rw [Ne, not_not, topBit_clear_iff] at clear
        refine ⟨fun masked => ⟨not_not.mp trailer, ?_, masked⟩, fun ends => ends.2.2⟩
        rintro first isFirst
        rw [Option.mem_some_iff] at isFirst
        rw [← isFirst]
        exact clear

end Verification

end HeadsetAdk.Rsa
