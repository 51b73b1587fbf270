import HeadsetAdk.Lib.Segments
import HeadsetAdk.Upgrade.HeaderStore

/-! # The header store as a log of bytes -/

namespace HeadsetAdk.Upgrade

open List (length_take length_append append_assoc take_left length_drop take_zero nil_append
  take_take drop_drop take_add drop_take take_of_length_le append_nil drop_nil length_nil
  flatten_cons map_cons)
open Option (map_some bind_some)
open Segments

structure Holds (before : PsKeys) (store : HeaderStore) (bytes : List UInt8) (position : Nat) :
    Prop where
  keys : ∀ index < 10, store.psKeys (510 + index) = segmentAt 64 bytes index
  others : ∀ key, key < 510 ∨ 519 < key → store.psKeys key = before key
  even : bytes.length % 2 = 0
  fits : bytes.length ≤ 640
  inside : position ≤ bytes.length
  pskey : store.dfuHeaderPskey = 510 + position / 64
  offset : store.dfuHeaderPskeyOffset = position % 64

def roundSize (position : Nat) (data : List UInt8) : Nat :=
  min data.length (64 - position % 64)

section Rounds

variable {before : PsKeys} {store : HeaderStore} {bytes data keyCache : List UInt8} {position : Nat}
  {buffer : List UInt8} {offset : Nat}

theorem roundSize_le (position : Nat) (data : List UInt8) :
    position % 64 + roundSize position data ≤ 64 := by
  rw [roundSize]
  omega

theorem length_take_roundSize (position : Nat) (data : List UInt8) :
    (data.take (roundSize position data)).length = roundSize position data := by
  rw [length_take, roundSize]
  omega

theorem two_mul_bytesToWords (count : Nat) : 2 * bytesToWords count = count + count % 2 := by
  rw [bytesToWords, Nat.shiftRight_eq_div_pow]
  omega

theorem copyInto_take (inside : offset ≤ buffer.length) (data : List UInt8) :
    (copyInto buffer offset data).take (offset + data.length) = buffer.take offset ++ data := by
  have length : (buffer.take offset ++ data).length = offset + data.length := by
    rw [length_append, length_take, Nat.min_eq_left inside]
  rw [copyInto, ← append_assoc, ← length, take_left]

theorem copyInto_drop (inside : offset ≤ buffer.length) (data : List UInt8) :
    (copyInto buffer offset data).drop (offset + data.length) =
      buffer.drop (offset + data.length) := by
  have length : (buffer.take offset ++ data).length = offset + data.length := by
    rw [length_append, length_take, Nat.min_eq_left inside]
  rw [copyInto, ← append_assoc]
  calc
    _ = List.drop (buffer.take offset ++ data).length
        (buffer.take offset ++ data ++ buffer.drop (offset + data.length)) := by rw [length]
    _ = _ := List.drop_left

theorem length_copyInto (inside : offset + data.length ≤ buffer.length) :
    (copyInto buffer offset data).length = buffer.length := by
  rw [copyInto, length_append, length_append, length_take, length_drop]
  omega

section

variable (holds : Holds before store bytes position)

include holds

theorem Holds.dataWriteSize : store.dataWriteSize data = roundSize position data := by
  rw [HeaderStore.dataWriteSize, roundSize, holds.offset, pskeyMaxStorageLengthInBytes]
  split <;> omega

section

variable (inKeys : position < 640)

include inKeys

theorem Holds.key : store.psKeys store.dfuHeaderPskey = segmentAt 64 bytes (position / 64) := by
  rw [holds.pskey, holds.keys _ (by omega)]

theorem Holds.length_key :
    (store.psKeys store.dfuHeaderPskey).length = min 64 (bytes.length - 64 * (position / 64)) := by
  rw [holds.key inKeys, length_segment]

theorem Holds.needsWrite_iff :
    store.needsWrite data = true ↔ bytes.length < position + roundSize position data := by
  have even := holds.even
  have inside := holds.inside
  have bound := roundSize_le position data
  rw [HeaderStore.needsWrite, decide_eq_true_iff, holds.dataWriteSize, holds.length_key inKeys,
    holds.offset, Nat.shiftLeft_eq]
  omega

theorem Holds.stored_eq (length : keyCache.length = 64)
    (reaches : bytes.length < position + roundSize position data) :
    store.stored keyCache data = (segmentAt 64 bytes (position / 64)).take (position % 64) ++
        (data.take (roundSize position data) ++
          (keyCache.drop (position % 64 + roundSize position data)).take
            ((position + roundSize position data) % 2)) := by
  have inside := holds.inside
  have bound := roundSize_le position data
  have keyLength := holds.length_key inKeys
  have taken := length_take_roundSize position data
  have cacheLength : (store.retrieve keyCache).length = 64 := by
    rw [HeaderStore.retrieve, length_copyInto (by omega), length]
  have retrieved : (store.retrieve keyCache).take (position % 64) =
      (segmentAt 64 bytes (position / 64)).take (position % 64) := by
    have whole := copyInto_take (Nat.zero_le keyCache.length) (store.psKeys store.dfuHeaderPskey)
    rw [take_zero, nil_append, Nat.zero_add] at whole
    rw [← holds.key inKeys, HeaderStore.retrieve]
    conv_rhs => rw [← whole]
    rw [take_take, Nat.min_eq_left (by omega)]
  have behind : (store.retrieve keyCache).drop (position % 64 + roundSize position data) =
      keyCache.drop (position % 64 + roundSize position data) := by
    have whole := copyInto_drop (Nat.zero_le keyCache.length) (store.psKeys store.dfuHeaderPskey)
    rw [Nat.zero_add] at whole
    have split : position % 64 + roundSize position data =
        (store.psKeys store.dfuHeaderPskey).length + (position % 64 + roundSize position data -
          (store.psKeys store.dfuHeaderPskey).length) := by
      omega
    rw [HeaderStore.retrieve, split, ← drop_drop, whole, drop_drop]
  have words : 2 * bytesToWords (position % 64 + roundSize position data) =
      position % 64 + (data.take (roundSize position data)).length +
        (position + roundSize position data) % 2 := by
    rw [two_mul_bytesToWords, taken]
    omega
  rw [HeaderStore.stored, HeaderStore.fillCache, holds.dataWriteSize, holds.offset, words,
    take_add, copyInto_take (by omega), copyInto_drop (by omega), taken, retrieved, behind,
    append_assoc]

end

end

/-- The bytes after a round.  Data that is thought to be stored is not written. -/
def roundBytes (keyCache bytes : List UInt8) (position : Nat) (data : List UInt8) : List UInt8 :=
  if bytes.length < position + roundSize position data then
    bytes.take position ++ (data.take (roundSize position data) ++
      (keyCache.drop (position % 64 + roundSize position data)).take
        ((position + roundSize position data) % 2))
  else bytes

theorem length_roundBytes (length : keyCache.length = 64) (inside : position ≤ bytes.length)
    (reaches : bytes.length < position + roundSize position data) :
    (roundBytes keyCache bytes position data).length =
      position + roundSize position data + (position + roundSize position data) % 2 := by
  have bound := roundSize_le position data
  have taken := length_take_roundSize position data
  rw [roundBytes, if_pos reaches, length_append, length_append, taken,
    length_take, length_take, length_drop, length]
  omega

theorem roundBytes_take (inside : position ≤ bytes.length) :
    (roundBytes keyCache bytes position data).take position = bytes.take position := by
  by_cases reaches : bytes.length < position + roundSize position data
  · have length : (bytes.take position).length = position := by
      rw [length_take, Nat.min_eq_left inside]
    rw [roundBytes, if_pos reaches, List.take_append_of_le_length (Nat.le_of_eq length.symm),
      take_take, Nat.min_self]
  · rw [roundBytes, if_neg reaches]

section

variable (holds : Holds before store bytes position)

include holds

theorem Holds.advance {psKeys : PsKeys} {bytes' : List UInt8}
    (keys : ∀ index < 10, psKeys (510 + index) = segmentAt 64 bytes' index)
    (others : ∀ key, key < 510 ∨ 519 < key → psKeys key = before key)
    (even : bytes'.length % 2 = 0) (fits : bytes'.length ≤ 640)
    (inside : position + roundSize position data ≤ bytes'.length) :
    Holds before (store.advance psKeys (roundSize position data)).nextKey bytes'
      (position + roundSize position data) := by
  have bound := roundSize_le position data
  have offset := holds.offset
  have pskey := holds.pskey
  rw [HeaderStore.advance, HeaderStore.nextKey]
  dsimp only
  rw [pskeyMaxStorageLengthInBytes]
  by_cases full : position % 64 + roundSize position data = 64
  · rw [if_pos (by rw [offset]; exact full)]
    refine ⟨keys, others, even, fits, inside, ?_, ?_⟩
    · dsimp only
      omega
    · dsimp only
      omega
  · rw [if_neg (by rw [offset]; exact full)]
    refine ⟨keys, others, even, fits, inside, ?_, ?_⟩
    · dsimp only
      omega
    · dsimp only
      omega

theorem Holds.segment_roundBytes (inKeys : position < 640) (length : keyCache.length = 64)
    (reaches : bytes.length < position + roundSize position data) :
    segmentAt 64 (roundBytes keyCache bytes position data) (position / 64) =
      store.stored keyCache data := by
  have inside := holds.inside
  have bound := roundSize_le position data
  have whole : (bytes.take position).drop (64 * (position / 64)) =
      (segmentAt 64 bytes (position / 64)).take (position % 64) := by
    rw [segmentAt, drop_take, take_take, Nat.min_eq_left (by omega)]
    congr 1
    omega
  have short : 64 * (position / 64) ≤ (bytes.take position).length := by
    rw [length_take]
    omega
  rw [segment_last (by rw [length_roundBytes length inside reaches]; omega),
    holds.stored_eq inKeys length reaches, roundBytes, if_pos reaches,
    List.drop_append_of_le_length short, whole]

theorem Holds.round (inKeys : position < 640) (length : keyCache.length = 64) {room : StoreRoom}
    (works : ∀ keys key data, room keys key data = true) (data : List UInt8) :
    ∃ cache store', cache.length = 64 ∧
      ((position + roundSize position data) % 64 = 0 → 0 < roundSize position data →
        cache = segmentAt 64 (roundBytes keyCache bytes position data) (position / 64)) ∧
      Holds before store' (roundBytes keyCache bytes position data)
        (position + roundSize position data) ∧
      ∀ rounds, HeaderStore.saveLoop room (rounds + 1) keyCache store data =
        if position + roundSize position data = 640 then some (.noMemory, store')
        else if data.drop (roundSize position data) = [] then some (.success, store')
        else HeaderStore.saveLoop room rounds cache store'
          (data.drop (roundSize position data)) := by
  have inside := holds.inside
  have even := holds.even
  have fits := holds.fits
  have bound := roundSize_le position data
  have keyLength := holds.length_key inKeys
  have taken := length_take_roundSize position data
  have retrieveLength : (store.retrieve keyCache).length = 64 := by
    rw [HeaderStore.retrieve, length_copyInto (by omega), length]
  have fillLength : (store.fillCache keyCache data).length = 64 := by
    rw [HeaderStore.fillCache, holds.dataWriteSize, holds.offset,
      length_copyInto (by rw [taken, retrieveLength]; exact bound), retrieveLength]
  have out (psKeys : PsKeys) :
      (store.advance psKeys (roundSize position data)).outOfKeys = true ↔
        position + roundSize position data = 640 := by
    have offset := holds.offset
    have pskey := holds.pskey
    rw [HeaderStore.outOfKeys, decide_eq_true_iff, HeaderStore.advance]
    dsimp only
    rw [pskeyMaxStorageLengthInBytes, dfuHeaderPskeyEnd, dfuHeaderPskeyStart, dfuHeaderPskeyLen]
    omega
  have small : ¬ (store.psKeys store.dfuHeaderPskey).length > pskeyMaxStorageLengthInBytes := by
    rw [pskeyMaxStorageLengthInBytes]
    omega
  by_cases reaches : bytes.length < position + roundSize position data
  · have writes := (holds.needsWrite_iff inKeys).mpr reaches
    have newLength := length_roundBytes length inside reaches
    have here := holds.segment_roundBytes inKeys length reaches
    refine ⟨store.fillCache keyCache data, (store.advance (Function.update store.psKeys
      store.dfuHeaderPskey (store.stored keyCache data)) (roundSize position data)).nextKey,
      fillLength, ?_, holds.advance ?_ ?_ ?_ ?_ ?_, ?_⟩
    · intro full positive
      have whole : 2 * bytesToWords (position % 64 + roundSize position data) = 64 := by
        rw [two_mul_bytesToWords]
        omega
      rw [here, HeaderStore.stored, holds.dataWriteSize, holds.offset, whole,
        take_of_length_le (Nat.le_of_eq fillLength)]
    · intro index inTen
      rcases Nat.lt_trichotomy index (position / 64) with earlier | rfl | later
      · rw [Function.update_of_ne (by rw [holds.pskey]; omega), holds.keys index inTen]
        exact (segment_congr (roundBytes_take inside) (by omega)).symm
      · rw [← holds.pskey, Function.update_self, here]
      · rw [Function.update_of_ne (by rw [holds.pskey]; omega), holds.keys index inTen,
          segment_eq_nil (by omega), segment_eq_nil (by rw [newLength]; omega)]
    · intro key other
      rw [Function.update_of_ne (by rw [holds.pskey]; omega), holds.others key other]
    · rw [newLength]
      omega
    · rw [newLength]
      omega
    · rw [newLength]
      exact Nat.le_add_right _ _
    · intro rounds
      rw [HeaderStore.saveLoop, if_neg small]
      dsimp only
      rw [writes, works, if_neg (by rintro ⟨_, no⟩; exact absurd no (by decide)), if_pos rfl,
        if_pos rfl, holds.dataWriteSize]
      simp only [out]
  · have skips : ¬ store.needsWrite data = true := fun writes =>
      reaches ((holds.needsWrite_iff inKeys).mp writes)
    have same : roundBytes keyCache bytes position data = bytes := by
      rw [roundBytes, if_neg reaches]
    rw [same]
    refine ⟨store.retrieve keyCache, (store.advance store.psKeys (roundSize position data)).nextKey,
      retrieveLength, ?_, holds.advance holds.keys holds.others even fits (by omega), ?_⟩
    · intro full positive
      have whole : (store.psKeys store.dfuHeaderPskey).length = keyCache.length := by
        rw [keyLength, length]
        omega
      rw [HeaderStore.retrieve, copyInto, take_zero, nil_append, Nat.zero_add,
        List.drop_eq_nil_of_le (Nat.le_of_eq whole.symm), append_nil, holds.key inKeys]
    · intro rounds
      rw [HeaderStore.saveLoop, if_neg small]
      dsimp only
      rw [if_neg (by rintro ⟨yes, _⟩; exact skips yes), if_neg skips, if_neg skips,
        holds.dataWriteSize]
      simp only [out]

end

end Rounds

section Calls

variable {before : PsKeys} {store store' : HeaderStore} {bytes data keyCache : List UInt8}
  {position position' : Nat} {room : StoreRoom} {rounds : Nat}

theorem roundSize_pos (position : Nat) (some : data ≠ []) : 0 < roundSize position data := by
  have positive := List.length_pos_iff.mpr some
  rw [roundSize]
  omega

theorem Holds.psKeys_eq (holds : Holds before store bytes position)
    (holds' : Holds before store' bytes position') : store'.psKeys = store.psKeys := by
  funext key
  by_cases other : key < 510 ∨ 519 < key
  · rw [holds.others key other, holds'.others key other]
  · obtain ⟨index, rfl⟩ : ∃ index, key = 510 + index := ⟨key - 510, by omega⟩
    rw [holds.keys index (by omega), holds'.keys index (by omega)]

theorem Holds.saveLoop_again (holds : Holds before store bytes position)
    (length : keyCache.length = 64) (works : ∀ keys key data, room keys key data = true)
    (known : position + data.length ≤ bytes.length) (inKeys : position + data.length < 640)
    (enough : data.length < rounds) :
    ∃ store', HeaderStore.saveLoop room rounds keyCache store data = some (.success, store') ∧
      Holds before store' bytes (position + data.length) := by
  induction rounds generalizing keyCache store data position with
  | zero => exact absurd enough (Nat.not_lt_zero _)
  | succ rounds ih =>
    obtain ⟨cache, next, cacheLength, _, holds', ran⟩ := holds.round (by omega) length works data
    have short : roundSize position data ≤ data.length := Nat.min_le_left _ _
    have same : roundBytes keyCache bytes position data = bytes := by
      rw [roundBytes, if_neg (by omega)]
    rw [same] at holds'
    rw [ran, if_neg (by omega)]
    by_cases done : data.drop (roundSize position data) = []
    · have whole : roundSize position data = data.length :=
        Nat.le_antisymm short (List.drop_eq_nil_iff.mp done)
      rw [if_pos done, ← whole]
      exact ⟨next, rfl, holds'⟩
    · have some : data ≠ [] := by
        rintro rfl
        exact done drop_nil
      have positive := roundSize_pos position some
      have rest : (data.drop (roundSize position data)).length =
          data.length - roundSize position data := length_drop
      have known' : position + roundSize position data +
          (data.drop (roundSize position data)).length ≤ bytes.length := by
        omega
      rw [if_neg done]
      obtain ⟨store', ran', holds''⟩ := ih holds' cacheLength known' (by omega) (by omega)
      refine ⟨store', ran', ?_⟩
      rwa [rest, Nat.add_assoc, Nat.add_sub_cancel' short] at holds''

/-- One byte for an odd place: the byte that fills up the last word is taken for it. -/
def LosesByte (position : Nat) (data : List UInt8) : Prop :=
  position % 2 = 1 ∧ roundSize position data = 1

instance (position : Nat) (data : List UInt8) : Decidable (LosesByte position data) :=
  inferInstanceAs (Decidable (_ ∧ _))

def kept (bytes : List UInt8) (position : Nat) (data : List UInt8) : List UInt8 :=
  if LosesByte position data then bytes.take (position + 1) ++ data.tail
  else bytes.take position ++ data

/-- The byte that fills up the last word comes from the buffer, which holds the key before
if the data began there. -/
def PadFrom (keyCache : List UInt8) (position : Nat) (bytes : List UInt8) (behind : Nat) : Prop :=
  behind % 2 = 1 → bytes[behind]? =
    if behind / 64 = position / 64 then keyCache[behind % 64]? else bytes[behind - 64]?

theorem roundBytes_kept (keyCache data : List UInt8) (inside : position ≤ bytes.length)
    (append : bytes.length ≤ position + 1) (even : bytes.length % 2 = 0) :
    (roundBytes keyCache bytes position data).take (position + roundSize position data) =
      kept bytes position (data.take (roundSize position data)) := by
  have taken := length_take_roundSize position data
  have same :
      roundSize position (data.take (roundSize position data)) = roundSize position data := by
    rw [roundSize, taken, roundSize]
    omega
  have here : (bytes.take position).length = position := by
    rw [length_take, Nat.min_eq_left inside]
  by_cases reaches : bytes.length < position + roundSize position data
  · have keeps : ¬ LosesByte position (data.take (roundSize position data)) := by
      rintro ⟨odd, one⟩
      omega
    have length : (bytes.take position ++ data.take (roundSize position data)).length =
        position + roundSize position data := by
      rw [length_append, here, taken]
    rw [roundBytes, if_pos reaches, kept, if_neg keeps, ← append_assoc, ← length, take_left]
  · rw [roundBytes, if_neg reaches, kept]
    by_cases nothing : roundSize position data = 0
    · have keeps : ¬ LosesByte position (data.take (roundSize position data)) := by
        rintro ⟨_, one⟩
        omega
      rw [if_neg keeps, nothing, take_zero, append_nil, Nat.add_zero]
    · have loses : LosesByte position (data.take (roundSize position data)) := ⟨by omega, by omega⟩
      have one : roundSize position data = 1 := by omega
      have single : (data.take 1).tail = [] := by
        apply List.eq_nil_of_length_eq_zero
        rw [List.length_tail, length_take]
        omega
      rw [if_pos loses, one, single, append_nil]

theorem kept_append {rest : List UInt8} (some : data ≠ [])
    (fills : 64 - position % 64 ≤ data.length) :
    kept bytes position data ++ rest = kept bytes position (data ++ rest) := by
  have same : roundSize position (data ++ rest) = roundSize position data := by
    rw [roundSize, roundSize, length_append]
    omega
  by_cases loses : LosesByte position data
  · have loses' : LosesByte position (data ++ rest) := ⟨loses.1, same.trans loses.2⟩
    rw [kept, kept, if_pos loses, if_pos loses', List.tail_append_of_ne_nil some, append_assoc]
  · have keeps' : ¬ LosesByte position (data ++ rest) := fun loses' =>
      loses ⟨loses'.1, same.symm.trans loses'.2⟩
    rw [kept, kept, if_neg loses, if_neg keeps', append_assoc]

theorem kept_even (even : position % 2 = 0) :
    kept bytes position data = bytes.take position ++ data :=
  if_neg fun loses => by
    have odd := loses.1
    omega

structure Appended (keyCache bytes : List UInt8) (position : Nat) (data bytes' : List UInt8) :
    Prop where
  kept : bytes'.take (position + min data.length (640 - position)) =
    kept bytes position (data.take (640 - position))
  short : bytes'.length ≤ position + min data.length (640 - position) + 1
  nothing : data = [] → bytes' = bytes
  pad : data ≠ [] → PadFrom keyCache position bytes' (position + min data.length (640 - position))

theorem padFrom_round (inside : position ≤ bytes.length) (append : bytes.length ≤ position + 1)
    (even : bytes.length % 2 = 0) (some : data ≠ []) :
    PadFrom keyCache position (roundBytes keyCache bytes position data)
      (position + roundSize position data) := by
  intro odd
  have positive := roundSize_pos position some
  have bound := roundSize_le position data
  have taken := length_take_roundSize position data
  have length : (bytes.take position ++ data.take (roundSize position data)).length =
      position + roundSize position data := by
    rw [length_append, length_take, taken, Nat.min_eq_left inside]
  have place : (position + roundSize position data) % 64 =
      position % 64 + roundSize position data := by
    omega
  rw [if_pos (by omega), roundBytes, if_pos (by omega), ← append_assoc,
    List.getElem?_append_right (Nat.le_of_eq length), length, Nat.sub_self, odd, place,
    List.getElem?_take_of_lt Nat.one_pos, List.getElem?_drop, Nat.add_zero]

section

variable (holds : Holds before store bytes position)

include holds

section

variable (inKeys : position < 640) (append : bytes.length ≤ position + 1)
  (length : keyCache.length = 64) (works : ∀ keys key data, room keys key data = true)

include inKeys append length works

theorem Holds.saveLoop_append (enough : data.length < rounds) :
    ∃ store' bytes', HeaderStore.saveLoop room rounds keyCache store data =
        some (if position + data.length < 640 then .success else .noMemory, store') ∧
      Holds before store' bytes' (position + min data.length (640 - position)) ∧
      Appended keyCache bytes position data bytes' := by
  induction rounds generalizing keyCache store bytes data position with
  | zero => exact absurd enough (Nat.not_lt_zero _)
  | succ rounds ih =>
    have inside := holds.inside
    have even := holds.even
    obtain ⟨cache, next, cacheLength, full, holds', ran⟩ := holds.round inKeys length works data
    have short : roundSize position data ≤ data.length := Nat.min_le_left _ _
    have bound : roundSize position data ≤ 64 - position % 64 := Nat.min_le_right _ _
    have keeps := roundBytes_kept keyCache data inside append even
    have roundShort : (roundBytes keyCache bytes position data).length ≤
        position + roundSize position data + 1 := by
      by_cases reaches : bytes.length < position + roundSize position data
      · rw [length_roundBytes length inside reaches]
        omega
      · rw [roundBytes, if_neg reaches]
        omega
    rw [ran]
    by_cases done : data.drop (roundSize position data) = []
    · have whole : roundSize position data = data.length :=
        Nat.le_antisymm short (List.drop_eq_nil_iff.mp done)
      have all : min data.length (640 - position) = roundSize position data := by omega
      have taken : data.take (640 - position) = data.take (roundSize position data) := by
        rw [take_of_length_le (by omega), whole, List.take_length]
      refine ⟨next, roundBytes keyCache bytes position data, ?_, ?_, ?_, ?_, ?_, ?_⟩
      · by_cases last : position + roundSize position data = 640
        · rw [if_pos last, if_neg (by omega)]
        · rw [if_neg last, if_pos done, if_pos (by omega)]
      · rwa [all]
      · rwa [all, taken]
      · rwa [all]
      · rintro rfl
        rw [roundBytes, if_neg]
        rw [roundSize, length_nil, Nat.zero_min]
        omega
      · intro some
        rw [all]
        exact padFrom_round inside append even some
    · have more : roundSize position data < data.length :=
        Nat.lt_of_not_le fun le => done (List.drop_eq_nil_of_le le)
      have fills : position % 64 + roundSize position data = 64 := by
        rw [roundSize] at more ⊢
        omega
      have some : data.take (roundSize position data) ≠ [] := by
        intro none
        have length := congrArg List.length none
        rw [length_take, length_nil] at length
        omega
      have taken : (data.take (roundSize position data)).length = roundSize position data := by
        rw [length_take, Nat.min_eq_left short]
      by_cases last : position + roundSize position data = 640
      · have all : min data.length (640 - position) = roundSize position data := by omega
        have cut : 640 - position = roundSize position data := by omega
        refine ⟨next, roundBytes keyCache bytes position data, ?_, ?_, ?_, ?_, ?_, ?_⟩
        · rw [if_pos last, if_neg (by omega)]
        · rwa [all]
        · rwa [all, cut]
        · rwa [all]
        · rintro rfl
          exact absurd drop_nil done
        · intro _ odd
          omega
      · have rest : (data.drop (roundSize position data)).length =
            data.length - roundSize position data := length_drop
        have exact' : (roundBytes keyCache bytes position data).length =
            position + roundSize position data := by
          have inside' := holds'.inside
          have even' := holds'.even
          omega
        rw [if_neg last, if_neg done]
        obtain ⟨store', bytes', ran', holds'', kept', short', _, pad'⟩ :=
          ih holds' (by omega) (by omega) cacheLength
            (by omega : (data.drop (roundSize position data)).length < rounds)
        have reach : position + roundSize position data +
            min (data.drop (roundSize position data)).length
              (640 - (position + roundSize position data)) =
            position + min data.length (640 - position) := by
          omega
        have cut : data.take (640 - position) = data.take (roundSize position data) ++
            (data.drop (roundSize position data)).take
              (640 - (position + roundSize position data)) := by
          rw [← take_add]
          congr 1
          omega
        rw [reach] at holds'' kept' short' pad'
        have prefix' : (roundBytes keyCache bytes position data).take
            (position + roundSize position data) = roundBytes keyCache bytes position data :=
          take_of_length_le (Nat.le_of_eq exact')
        have keptRest := @kept_even (roundBytes keyCache bytes position data)
          ((data.drop (roundSize position data)).take
            (640 - (position + roundSize position data)))
          (position + roundSize position data) (by omega)
        refine ⟨store', bytes', ?_, holds'', ?_, short', ?_, ?_⟩
        · rw [ran']
          congr 3
          rw [rest, eq_iff_iff]
          omega
        · rw [kept', keptRest, keeps, cut, kept_append some (by omega)]
        · rintro rfl
          exact absurd drop_nil done
        · intro _ odd
          have early : (position + min data.length (640 - position)) / 64 ≠ position / 64 := by
            omega
          rw [if_neg early, pad' done odd]
          by_cases here : (position + min data.length (640 - position)) / 64 =
              (position + roundSize position data) / 64
          · have stays : bytes'.take (position + roundSize position data) =
                roundBytes keyCache bytes position data := by
              have prefixes := congrArg (List.take (position + roundSize position data)) kept'
              rw [take_take, Nat.min_eq_left (by omega), keptRest, prefix',
                ← exact', take_left] at prefixes
              rwa [exact'] at prefixes
            have behind : position + min data.length (640 - position) - 64 <
                position + roundSize position data := by
              omega
            rw [if_pos here, full (by omega) (by omega), segmentAt,
              List.getElem?_take_of_lt (Nat.mod_lt _ (by decide)), List.getElem?_drop, ← stays,
              List.getElem?_take_of_lt (by omega)]
            congr 1
            omega
          · rw [if_neg here]

theorem Holds.save_append (data : List UInt8) :
    ∃ store' bytes', store.saveHeaderInPSKeys room keyCache data =
        some (if position + data.length < 640 then .success else .noMemory, store') ∧
      Holds before store' bytes' (position + min data.length (640 - position)) ∧
      Appended keyCache bytes position data bytes' :=
  holds.saveLoop_append inKeys append length works (Nat.lt_succ_self _)

end

theorem Holds.save_again (data : List UInt8)
    (length : keyCache.length = 64) (works : ∀ keys key data, room keys key data = true)
    (known : position + data.length ≤ bytes.length) (inKeys : position + data.length < 640) :
    ∃ store', store.saveHeaderInPSKeys room keyCache data = some (.success, store') ∧
      Holds before store' bytes (position + data.length) :=
  holds.saveLoop_again length works known inKeys (Nat.lt_succ_self _)

theorem Holds.unique (holds' : Holds before store' bytes position) : store' = store := by
  have psKeys := holds.psKeys_eq holds'
  have pskey := holds'.pskey.trans holds.pskey.symm
  have offset := holds'.offset.trans holds.offset.symm
  cases store
  cases store'
  simp only [HeaderStore.mk.injEq]
  exact ⟨psKeys, pskey, offset⟩

section

variable (inKeys : position < 640) (evenPosition : position % 2 = 0)
  (evenData : data.length % 2 = 0) (works : ∀ keys key data, room keys key data = true)

include inKeys evenPosition evenData works

/-- An even number of bytes for an even place is saved whatever the buffer on the stack holds. -/
theorem Holds.saveLoop_even (enough : data.length < rounds) :
    ∃ code store' bytes', (∀ keyCache : List UInt8, keyCache.length = 64 →
        HeaderStore.saveLoop room rounds keyCache store data = some (code, store')) ∧
      (code = .success → position + data.length < 640 ∧
        Holds before store' bytes' (position + data.length)) ∧
      (code = .success ∨ code = .noMemory) ∧
      ∀ key, key < 510 ∨ 519 < key → store'.psKeys key = before key := by
  induction rounds generalizing store bytes data position with
  | zero => exact absurd enough (Nat.not_lt_zero _)
  | succ rounds ih =>
    have evenSize : roundSize position data % 2 = 0 := by
      rw [roundSize]
      omega
    have evenEnd : (position + roundSize position data) % 2 = 0 := by omega
    have short : roundSize position data ≤ data.length := Nat.min_le_left _ _
    have fills : roundSize position data ≤ 64 - position % 64 := Nat.min_le_right _ _
    have rest : (data.drop (roundSize position data)).length =
        data.length - roundSize position data := length_drop
    have same (keyCache : List UInt8) : roundBytes keyCache bytes position data =
        roundBytes (List.replicate 64 0) bytes position data := by
      rw [roundBytes, roundBytes, evenEnd, take_zero, take_zero]
    obtain ⟨_, next, _, _, holds', _⟩ := holds.round inKeys List.length_replicate works data
    have ran (keyCache : List UInt8) (length : keyCache.length = 64) :
        ∃ cache : List UInt8, cache.length = 64 ∧
          HeaderStore.saveLoop room (rounds + 1) keyCache store data =
            if position + roundSize position data = 640 then some (.noMemory, next)
            else if data.drop (roundSize position data) = [] then some (.success, next)
            else HeaderStore.saveLoop room rounds cache next
              (data.drop (roundSize position data)) := by
      obtain ⟨cache, next', cacheLength, _, holds'', ran⟩ := holds.round inKeys length works data
      rw [same keyCache] at holds''
      obtain rfl := holds'.unique holds''
      exact ⟨cache, cacheLength, ran rounds⟩
    by_cases last : position + roundSize position data = 640
    · refine ⟨.noMemory, next, [], fun keyCache length => ?_, fun success => by contradiction,
        Or.inr rfl, holds'.others⟩
      obtain ⟨_, _, ran⟩ := ran keyCache length
      rw [ran, if_pos last]
    · by_cases done : data.drop (roundSize position data) = []
      · have whole : roundSize position data = data.length :=
          Nat.le_antisymm short (List.drop_eq_nil_iff.mp done)
        have bound : position + data.length < 640 := by omega
        rw [whole] at holds'
        refine ⟨.success, next, _, fun keyCache length => ?_, fun _ => ⟨bound, holds'⟩,
          Or.inl rfl, holds'.others⟩
        obtain ⟨_, _, ran⟩ := ran keyCache length
        rw [ran, if_neg last, if_pos done]
      · have some : data ≠ [] := by
          rintro rfl
          exact done drop_nil
        have positive := roundSize_pos position some
        have bound : position + roundSize position data < 640 := by omega
        obtain ⟨code, store', bytes', saved, success, codes, others⟩ :=
          ih holds' bound evenEnd (by omega)
            (by omega : (data.drop (roundSize position data)).length < rounds)
        refine ⟨code, store', bytes', fun keyCache length => ?_, fun isSuccess => ?_, codes, others⟩
        · obtain ⟨cache, cacheLength, ran⟩ := ran keyCache length
          rw [ran, if_neg last, if_neg done, saved cache cacheLength]
        · obtain ⟨less, holds''⟩ := success isSuccess
          rw [rest, Nat.add_assoc, Nat.add_sub_cancel' short] at less holds''
          exact ⟨less, holds''⟩

theorem Holds.save_even :
    ∃ code store' bytes', (∀ keyCache : List UInt8, keyCache.length = 64 →
        store.saveHeaderInPSKeys room keyCache data = some (code, store')) ∧
      (code = .success → position + data.length < 640 ∧
        Holds before store' bytes' (position + data.length)) ∧
      (code = .success ∨ code = .noMemory) ∧
      ∀ key, key < 510 ∨ 519 < key → store'.psKeys key = before key :=
  holds.saveLoop_even inKeys evenPosition evenData works (Nat.lt_succ_self _)

end

end

end Calls

section Reading

open RebootHandlerContext

variable {before : PsKeys} {store : HeaderStore} {bytes : List UInt8} {position : Nat}
  {context : RebootHandlerContext} {count : Nat}

structure ReadsAt (bytes : List UInt8) (context : RebootHandlerContext) (count : Nat) : Prop where
  pskey : 510 < context.pskey ∧ context.pskey ≤ 520
  pskeyLen : context.pskeyLen = (segmentAt 64 bytes (context.pskey - 511)).length
  keyCache : context.keyCache.take context.pskeyLen = segmentAt 64 bytes (context.pskey - 511)
  inside : context.pskeyOffset ≤ context.pskeyLen
  count : count = 64 * (context.pskey - 511) + context.pskeyOffset

section

variable (holds : Holds before store bytes position)

include holds

theorem Holds.loadNextPskey (context : RebootHandlerContext) {index : Nat}
    (next : context.pskey = 0 ∧ index = 0 ∨
      context.pskey = 510 + index ∧ index < 10 ∧ context.pskeyLen = 64)
    (more : 64 * index < bytes.length) :
    ∃ context', context.loadNextPskey store.psKeys = (true, context') ∧
      ReadsAt bytes context' (64 * index) ∧ context'.pskeyOffset = 0 := by
  have fits := holds.fits
  have even := holds.even
  have key : store.psKeys (if context.pskey = 0 then dfuHeaderPskeyStart else context.pskey) =
      segmentAt 64 bytes index := by
    rcases next with ⟨zero, rfl⟩ | ⟨here, _, _⟩
    · rw [if_pos zero]
      exact holds.keys 0 (by decide)
    · rw [if_neg (by omega), here]
      exact holds.keys index (by omega)
  have length := length_segment 64 bytes index
  have named :
      (if context.pskey = 0 then dfuHeaderPskeyStart else context.pskey) = 510 + index := by
    rcases next with ⟨zero, rfl⟩ | ⟨here, _, _⟩
    · rw [if_pos zero]
      rfl
    · rw [if_neg (by omega), here]
  have stays : ¬ (context.pskey ≠ 0 ∧ (context.pskeyLen < pskeyMaxStorageLengthInBytes ∨
      context.pskey > dfuHeaderPskeyEnd)) := by
    rw [pskeyMaxStorageLengthInBytes, dfuHeaderPskeyEnd, dfuHeaderPskeyStart, dfuHeaderPskeyLen]
    omega
  rw [RebootHandlerContext.loadNextPskey, if_neg stays]
  dsimp only
  rw [key, named, if_pos (by omega)]
  refine ⟨_, rfl, ⟨⟨by dsimp only; omega, by dsimp only; omega⟩, ?_, ?_, Nat.zero_le _, ?_⟩, rfl⟩
  · dsimp only
    rw [show 510 + index + 1 - 511 = index by omega, Nat.shiftLeft_eq]
    omega
  · dsimp only
    rw [show 510 + index + 1 - 511 = index by omega, Nat.shiftLeft_eq,
      show (segmentAt 64 bytes index).length / 2 * 2 ^ 1 =
        (segmentAt 64 bytes index).length by omega,
      copyInto, take_zero, nil_append, take_left]
  · dsimp only
    omega

theorem Holds.readLoop {size rounds : Nat} (reads : ReadsAt bytes context count)
    (more : count + size ≤ bytes.length) (enough : size < rounds) :
    ∃ context', RebootHandlerContext.readLoop store.psKeys rounds context size =
        some (true, (bytes.drop count).take size, context') ∧
      ReadsAt bytes context' (count + size) := by
  induction rounds generalizing context count size with
  | zero => exact absurd enough (Nat.not_lt_zero _)
  | succ rounds ih =>
    by_cases nothing : size = 0
    · subst nothing
      rw [RebootHandlerContext.readLoop, if_pos rfl, take_zero]
      exact ⟨context, rfl, reads⟩
    · have fits := holds.fits
      obtain ⟨loaded, isLoaded, reads', left⟩ : ∃ loaded,
          (if context.pskeyOffset = context.pskeyLen then context.loadNextPskey store.psKeys
            else (true, context)) = (true, loaded) ∧ ReadsAt bytes loaded count ∧
          loaded.pskeyOffset < loaded.pskeyLen := by
        have length := length_segment 64 bytes (context.pskey - 511)
        have pskeyLen := reads.pskeyLen
        have inPskeys := reads.pskey
        have isCount := reads.count
        by_cases atEnd : context.pskeyOffset = context.pskeyLen
        · have next : context.pskey = 510 + (context.pskey - 511 + 1) := by omega
          obtain ⟨context', loads, reads', start⟩ :=
            holds.loadNextPskey context (Or.inr ⟨next, by omega, by omega⟩) (by omega)
          have here : count = 64 * (context.pskey - 511 + 1) := by omega
          have length' := length_segment 64 bytes (context'.pskey - 511)
          have pskeyLen' := reads'.pskeyLen
          have isCount' := reads'.count
          have inside' := reads'.inside
          refine ⟨context', by rw [if_pos atEnd, loads], by rwa [here], ?_⟩
          omega
        · refine ⟨context, if_neg atEnd, reads, ?_⟩
          exact Nat.lt_of_le_of_ne reads.inside atEnd
      have isCount := reads'.count
      obtain ⟨diff, isDiff⟩ : ∃ diff, min size (loaded.pskeyLen - loaded.pskeyOffset) = diff :=
        ⟨_, rfl⟩
      have reads'' : ReadsAt bytes { loaded with pskeyOffset := loaded.pskeyOffset + diff }
          (count + diff) :=
        ⟨reads'.pskey, reads'.pskeyLen, reads'.keyCache, by dsimp only; omega, by dsimp only; omega⟩
      obtain ⟨context', ran, reads''⟩ :=
        ih reads'' (by omega : count + diff + (size - diff) ≤ bytes.length) (by omega)
      have copied : (loaded.keyCache.drop loaded.pskeyOffset).take diff =
          (bytes.drop count).take diff := by
        have within : (loaded.keyCache.drop loaded.pskeyOffset).take diff =
            ((loaded.keyCache.take loaded.pskeyLen).drop loaded.pskeyOffset).take diff := by
          rw [drop_take, take_take, Nat.min_eq_left (by omega)]
        have length := length_segment 64 bytes (loaded.pskey - 511)
        have pskeyLen := reads'.pskeyLen
        rw [within, reads'.keyCache, segmentAt, drop_take, take_take,
          Nat.min_eq_left (by omega), drop_drop, ← isCount]
      refine ⟨context', ?_, by rwa [show count + diff + (size - diff) = count + size by omega]
        at reads''⟩
      rw [RebootHandlerContext.readLoop, if_neg nothing, isLoaded]
      dsimp only
      rw [if_pos rfl, isDiff, ran, copied, map_some]
      dsimp only
      rw [← drop_drop, ← take_add, Nat.add_sub_cancel' (by omega)]

/-- `upgrade_reboot_handler_context_t` when nothing has been read. -/
def freshContext : RebootHandlerContext := ⟨List.replicate 64 0, 0, 0, 0⟩

theorem Holds.readHeaderPskey {size : Nat} (positive : 0 < size)
    (reads : context = freshContext ∧ count = 0 ∨ ReadsAt bytes context count)
    (more : count + size ≤ bytes.length) : ∃ context', context.readHeaderPskey store.psKeys size =
        some (true, (bytes.drop count).take size, context') ∧
      ReadsAt bytes context' (count + size) := by
  obtain ⟨first, isFirst, readsFirst⟩ : ∃ first,
      (if context.pskey = 0 then context.loadNextPskey store.psKeys else (true, context)) =
        (true, first) ∧ ReadsAt bytes first count := by
    rcases reads with ⟨rfl, rfl⟩ | reads
    · obtain ⟨first, loads, readsFirst, _⟩ :=
        holds.loadNextPskey freshContext (Or.inl ⟨rfl, rfl⟩) (by omega)
      exact ⟨first, loads, readsFirst⟩
    · exact ⟨context, if_neg (by have inPskeys := reads.pskey; omega), reads⟩
  obtain ⟨context', ran, reads'⟩ := holds.readLoop readsFirst more (Nat.lt_succ_self size)
  refine ⟨context', ?_, reads'⟩
  rw [RebootHandlerContext.readHeaderPskey, isFirst]
  dsimp only
  rw [if_pos rfl, ran, map_some]
  rfl

theorem Holds.readHeaders {pieces : List (List UInt8)} (filled : ∀ piece ∈ pieces, piece ≠ [])
    (reads : context = freshContext ∧ count = 0 ∨ ReadsAt bytes context count)
    (here : pieces.flatten <+: bytes.drop count) :
    context.readHeaders store.psKeys (pieces.map List.length) = some pieces := by
  induction pieces generalizing context count with
  | nil => rfl
  | cons piece pieces ih =>
    rw [flatten_cons] at here
    have first : (bytes.drop count).take piece.length = piece :=
      List.prefix_iff_eq_take.mp ((List.prefix_append _ _).trans here) |>.symm
    have positive : 0 < piece.length := List.length_pos_iff.mpr (filled piece List.mem_cons_self)
    have inside : count + piece.length ≤ bytes.length := by
      have length := congrArg List.length first
      rw [length_take, length_drop] at length
      omega
    have rest : pieces.flatten <+: bytes.drop (count + piece.length) := by
      obtain ⟨behind, whole⟩ := here
      refine ⟨behind, ?_⟩
      rw [← drop_drop, ← whole, append_assoc, List.drop_left]
    obtain ⟨context', read, reads'⟩ := holds.readHeaderPskey positive reads inside
    have readRest := ih (fun piece member => filled piece (List.mem_cons_of_mem _ member))
      (Or.inr reads') rest
    rw [map_cons, RebootHandlerContext.readHeaders, read, bind_some]
    dsimp only
    rw [if_pos rfl, readRest, first]
    rfl

end

end Reading

section Runs

variable {before : PsKeys} {store : HeaderStore} {bytes log : List UInt8} {position : Nat}
  {room : StoreRoom} {blocks : List (List UInt8)} {pad : Option UInt8} {data : List UInt8}
  {calls : List (List UInt8 × List UInt8)}

/-- Calls one behind the other, each with what the buffer on the stack holds, and the data. -/
def saveAll (room : StoreRoom) :
    HeaderStore → List (List UInt8 × List UInt8) → Option (List HostErrorCode × HeaderStore)
  | store, [] => some ([], store)
  | store, (keyCache, data) :: calls =>
      (store.saveHeaderInPSKeys room keyCache data).bind fun (code, store) =>
        (saveAll room store calls).map fun (codes, store) => (code :: codes, store)

def CallsOf (blocks : List (List UInt8)) (calls : List (List UInt8 × List UInt8)) : Prop :=
  calls.map Prod.snd = blocks ∧ ∀ call ∈ calls, call.1.length = 64

def Cleared (store : HeaderStore) : Prop :=
  (∀ index < 10, store.psKeys (510 + index) = []) ∧ store.dfuHeaderPskey = dfuHeaderPskeyStart ∧
    store.dfuHeaderPskeyOffset = 0

def HeaderStore.backTo (store : HeaderStore) (position : Nat) : HeaderStore :=
  { store with
    dfuHeaderPskey := dfuHeaderPskeyStart + position / pskeyMaxStorageLengthInBytes
    dfuHeaderPskeyOffset := position % pskeyMaxStorageLengthInBytes }

def storedBytes (psKeys : PsKeys) : List UInt8 :=
  (List.range dfuHeaderPskeyLen).flatMap fun index => psKeys (dfuHeaderPskeyStart + index)

structure KeepsLog (before psKeys : PsKeys) (log : List UInt8) : Prop where
  others : ∀ key, key < dfuHeaderPskeyStart ∨ dfuHeaderPskeyEnd < key → psKeys key = before key
  bytes : ∃ padding, storedBytes psKeys = log ++ padding ∧ padding.length ≤ 1
  read : ∀ pieces : List (List UInt8), (∀ piece ∈ pieces, piece ≠ []) → pieces.flatten <+: log →
    freshContext.readHeaders psKeys (pieces.map List.length) = some pieces

def FaithfulLog (room : StoreRoom) (blocks : List (List UInt8)) : Prop :=
  ∀ store calls, Cleared store → CallsOf blocks calls →
    ∃ store', saveAll room store calls = some (calls.map fun _ => .success, store') ∧
      KeepsLog store.psKeys store'.psKeys blocks.flatten ∧
      ∀ earlier later again, blocks = earlier ++ later → CallsOf later again →
        ∃ store'', saveAll room (store'.backTo earlier.flatten.length) again =
            some (again.map fun _ => .success, store'') ∧ store''.psKeys = store'.psKeys

/-- The byte behind an odd number of bytes, where the code and not the stack decides it. -/
def padBehind (log : List UInt8) (pad : Option UInt8) (data : List UInt8) : Option UInt8 :=
  if data = [] then pad
  else if (log.length + data.length) / 64 = log.length / 64 then none
  else (log ++ data)[log.length + data.length - 64]?

/-- No single byte for an odd place is lost: where there is one, it happens to be the byte
that is there already. -/
def KeepsBytes : List UInt8 → Option UInt8 → List (List UInt8) → Prop
  | _, _, [] => True
  | log, pad, data :: blocks =>
      (LosesByte log.length data → pad = data.head?) ∧
        KeepsBytes (log ++ data) (padBehind log pad data) blocks

theorem Cleared.holds (cleared : Cleared store) : Holds store.psKeys store [] 0 := by
  obtain ⟨empty, pskey, offset⟩ := cleared
  refine ⟨fun index inTen => ?_, fun _ _ => rfl, rfl, Nat.zero_le _, Nat.le_refl _, pskey, offset⟩
  rw [empty index inTen, segment_eq_nil (Nat.zero_le _)]

theorem Holds.storedBytes (holds : Holds before store bytes position) :
    storedBytes store.psKeys = bytes := by
  have same : (List.range 10).flatMap (fun index => store.psKeys (510 + index)) =
      (List.range 10).flatMap (segmentAt 64 bytes) := by
    refine List.flatMap_congr fun index member => ?_
    exact holds.keys index (List.mem_range.mp member)
  rw [Upgrade.storedBytes]
  change (List.range 10).flatMap (fun index => store.psKeys (510 + index)) = bytes
  rw [same, flatMap_segment, take_of_length_le holds.fits]

theorem Holds.keepsLog (holds : Holds before store bytes log.length)
    (same : bytes.take log.length = log) (short : bytes.length ≤ log.length + 1) :
    KeepsLog before store.psKeys log := by
  have inside := holds.inside
  refine ⟨fun key other => holds.others key other, ⟨bytes.drop log.length, ?_, ?_⟩, ?_⟩
  · conv_rhs => rw [← same]
    rw [holds.storedBytes, length_take, Nat.min_eq_left inside, List.take_append_drop]
  · rw [length_drop]
    omega
  · intro pieces filled here
    refine holds.readHeaders filled (Or.inl ⟨rfl, rfl⟩) (here.trans ?_)
    rw [List.drop_zero]
    conv_lhs => rw [← same]
    exact List.take_prefix _ _

theorem Holds.backTo (holds : Holds before store bytes position) {earlier : Nat}
    (inside : earlier ≤ bytes.length) : Holds before (store.backTo earlier) bytes earlier :=
  ⟨holds.keys, holds.others, holds.even, holds.fits, inside, rfl, rfl⟩

theorem kept_eq (same : bytes.take log.length = log)
    (filled : LosesByte log.length data → bytes[log.length]? = data.head?) :
    kept bytes log.length data = log ++ data := by
  rw [kept]
  by_cases loses : LosesByte log.length data
  · rw [if_pos loses, List.take_add_one, same, filled loses, append_assoc]
    cases data with
    | nil => rfl
    | cons byte data => rfl
  · rw [if_neg loses, same]

/-- The byte that fills up the last word, when it is decided. -/
def PadKnown (bytes : List UInt8) (position : Nat) (pad : Option UInt8) : Prop :=
  position % 2 = 1 → ∀ byte, pad = some byte → bytes[position]? = some byte

theorem Appended.padKnown {keyCache bytes' : List UInt8}
    (appended : Appended keyCache bytes log.length data bytes')
    (fits : log.length + data.length < 640) (same : bytes'.take (log ++ data).length = log ++ data)
    (known : PadKnown bytes log.length pad) :
    PadKnown bytes' (log ++ data).length (padBehind log pad data) := by
  have all : min data.length (640 - log.length) = data.length := by omega
  intro odd byte isPad
  rw [length_append] at odd same ⊢
  rw [padBehind] at isPad
  by_cases nothing : data = []
  · rw [if_pos nothing] at isPad
    have unchanged := appended.nothing nothing
    subst nothing
    rw [unchanged]
    exact known odd byte isPad
  · rw [if_neg nothing] at isPad
    have padFrom := appended.pad nothing
    rw [all] at padFrom
    by_cases here : (log.length + data.length) / 64 = log.length / 64
    · rw [if_pos here] at isPad
      contradiction
    · rw [if_neg here, ← same, List.getElem?_take_of_lt (by omega)] at isPad
      rw [padFrom odd, if_neg here, isPad]

theorem CallsOf.cons (of : CallsOf (data :: blocks) calls) :
    ∃ keyCache rest, calls = (keyCache, data) :: rest ∧ keyCache.length = 64 ∧
      CallsOf blocks rest := by
  obtain ⟨named, lengths⟩ := of
  cases calls with
  | nil => contradiction
  | cons call rest =>
    rw [map_cons, List.cons.injEq] at named
    exact ⟨call.1, rest, by rw [← named.1], lengths _ List.mem_cons_self, named.2,
      fun other member => lengths other (List.mem_cons_of_mem _ member)⟩

theorem CallsOf.nil (of : CallsOf [] calls) : calls = [] :=
  List.map_eq_nil_iff.mp of.1

section

variable (works : ∀ keys key data, room keys key data = true)

include works

theorem Holds.saveAll
    (holds : Holds before store bytes log.length) (same : bytes.take log.length = log)
    (append : bytes.length ≤ log.length + 1) (known : PadKnown bytes log.length pad)
    (keeps : KeepsBytes log pad blocks) (fits : log.length + blocks.flatten.length < 640)
    (of : CallsOf blocks calls) :
    ∃ store' bytes', Upgrade.saveAll room store calls = some (calls.map fun _ => .success, store') ∧
      Holds before store' bytes' (log ++ blocks.flatten).length ∧
      bytes'.take (log ++ blocks.flatten).length = log ++ blocks.flatten ∧
      bytes'.length ≤ (log ++ blocks.flatten).length + 1 := by
  induction blocks generalizing store bytes log pad calls with
  | nil =>
    rw [of.nil, List.flatten_nil, append_nil]
    exact ⟨store, bytes, rfl, holds, same, append⟩
  | cons data blocks ih =>
    rw [flatten_cons, length_append] at fits
    obtain ⟨keyCache, rest, rfl, length, ofRest⟩ := of.cons
    obtain ⟨next, bytes', saved, holds', appended⟩ :=
      holds.save_append (by omega) append length works data
    have all : min data.length (640 - log.length) = data.length := by omega
    have whole : data.take (640 - log.length) = data := take_of_length_le (by omega)
    have filled : LosesByte log.length data → bytes[log.length]? = data.head? := by
      intro loses
      have isPad := keeps.1 loses
      cases data with
      | nil => exact absurd loses.2 (by rw [roundSize, length_nil, Nat.zero_min]; decide)
      | cons byte data => exact known loses.1 byte isPad
    have same' : bytes'.take (log ++ data).length = log ++ data := by
      have kept := appended.kept
      rwa [all, whole, kept_eq same filled, ← length_append] at kept
    have short := appended.short
    rw [all, ← length_append] at short holds'
    obtain ⟨store', bytes'', ran, holds'', same'', append''⟩ := ih holds' same' short
      (appended.padKnown (by omega) same' known) keeps.2
      (by rw [length_append]; omega) ofRest
    rw [append_assoc, ← flatten_cons] at holds'' same'' append''
    refine ⟨store', bytes'', ?_, holds'', same'', append''⟩
    rw [Upgrade.saveAll, saved, if_pos (by omega), bind_some]
    dsimp only
    rw [ran]
    rfl

theorem Holds.saveAll_again (holds : Holds before store bytes position)
    (known : position + blocks.flatten.length ≤ bytes.length)
    (fits : position + blocks.flatten.length < 640) (of : CallsOf blocks calls) :
    ∃ store', Upgrade.saveAll room store calls = some (calls.map fun _ => .success, store') ∧
      Holds before store' bytes (position + blocks.flatten.length) := by
  induction blocks generalizing store position calls with
  | nil =>
    rw [of.nil]
    exact ⟨store, rfl, holds⟩
  | cons data blocks ih =>
    rw [flatten_cons, length_append] at known fits ⊢
    obtain ⟨keyCache, rest, rfl, length, ofRest⟩ := of.cons
    obtain ⟨next, saved, holds'⟩ := holds.save_again data length works (by omega) (by omega)
    obtain ⟨store', ran, holds''⟩ := ih holds' (by omega) (by omega) ofRest
    refine ⟨store', ?_, by rwa [Nat.add_assoc] at holds''⟩
    rw [Upgrade.saveAll, saved, bind_some]
    dsimp only
    rw [ran]
    rfl

theorem faithfulLog_of_keepsBytes
    (fits : blocks.flatten.length < 640) (keeps : KeepsBytes [] none blocks) :
    FaithfulLog room blocks := by
  intro store calls cleared of
  have start : ([] : List UInt8).length + blocks.flatten.length < 640 := by
    rwa [length_nil, Nat.zero_add]
  obtain ⟨store', bytes, ran, holds, same, short⟩ := Holds.saveAll works cleared.holds
    rfl (Nat.zero_le _) (fun _ _ nothing => by contradiction) keeps start of
  rw [nil_append] at holds same short
  refine ⟨store', ran, holds.keepsLog same short, fun earlier later again split ofLater => ?_⟩
  have inside := holds.inside
  have total : earlier.flatten.length + later.flatten.length = blocks.flatten.length := by
    rw [split, List.flatten_append, length_append]
  have back : earlier.flatten.length ≤ bytes.length := by omega
  obtain ⟨store'', ran', holds'⟩ :=
    (holds.backTo back).saveAll_again works (by omega) (by omega) ofLater
  exact ⟨store'', ran', (holds.backTo back).psKeys_eq holds'⟩

end

/-- Calls that leave a wrong byte behind each block of odd length. -/
def adverseCalls : List (List UInt8) → List (List UInt8 × List UInt8)
  | [] => []
  | data :: blocks =>
      (List.replicate 64 (blocks.flatten.headD 0 + 1), data) :: adverseCalls blocks

theorem callsOf_adverseCalls (blocks : List (List UInt8)) : CallsOf blocks
    (adverseCalls blocks) := by
  induction blocks with
  | nil => exact ⟨rfl, fun _ nothing => absurd nothing List.not_mem_nil⟩
  | cons data blocks ih =>
    refine ⟨by rw [adverseCalls, map_cons, ih.1], fun call member => ?_⟩
    rcases List.mem_cons.mp member with rfl | inRest
    · exact List.length_replicate
    · exact ih.2 call inRest

def PadAdverse (bytes : List UInt8) (position : Nat) (pad : Option UInt8) (next : UInt8) : Prop :=
  position % 2 = 1 → bytes[position]? = some (pad.getD (next + 1))

theorem Appended.padAdverse {bytes' : List UInt8} {next : UInt8}
    (appended : Appended (List.replicate 64 (next + 1)) bytes log.length data bytes')
    (fits : log.length + data.length < 640) (even : bytes'.length % 2 = 0)
    (inside : log.length + data.length ≤ bytes'.length)
    (same : bytes'.take (log ++ data).length = log ++ data)
    (adverse : PadAdverse bytes log.length pad ((data ++ [next]).headD 0)) :
    PadAdverse bytes' (log ++ data).length (padBehind log pad data) next := by
  have all : min data.length (640 - log.length) = data.length := by omega
  intro odd
  rw [length_append] at odd same ⊢
  rw [padBehind]
  by_cases nothing : data = []
  · rw [if_pos nothing]
    have unchanged := appended.nothing nothing
    subst nothing
    rw [unchanged]
    exact adverse odd
  · rw [if_neg nothing]
    have padFrom := appended.pad nothing
    rw [all] at padFrom
    rw [padFrom odd]
    by_cases here : (log.length + data.length) / 64 = log.length / 64
    · rw [if_pos here, if_pos here, List.getElem?_replicate, if_pos (Nat.mod_lt _ (by decide))]
      rfl
    · have before : log.length + data.length - 64 < (log ++ data).length := by
        rw [length_append]
        omega
      rw [if_neg here, if_neg here, ← same, List.getElem?_take_of_lt (by omega),
        List.getElem?_eq_getElem (by omega)]
      rfl

theorem kept_take (inside : position ≤ bytes.length) (data : List UInt8) :
    (kept bytes position data).take position = bytes.take position := by
  have length : (bytes.take position).length = position := by
    rw [length_take, Nat.min_eq_left inside]
  rw [kept]
  by_cases loses : LosesByte position data
  · by_cases more : position < bytes.length
    · rw [if_pos loses, List.take_append_of_le_length (by rw [length_take]; omega),
        take_take, Nat.min_eq_left (Nat.le_succ _)]
    · rw [if_pos loses, take_of_length_le (by omega : bytes.length ≤ position + 1),
        List.take_append_of_le_length inside]
  · rw [if_neg loses, List.take_append_of_le_length (Nat.le_of_eq length.symm), take_take,
      Nat.min_self]

theorem Holds.saveAll_stays (works : ∀ keys key data, room keys key data = true)
    (holds : Holds before store bytes position) (append : bytes.length ≤ position + 1)
    (fits : position + blocks.flatten.length < 640) (of : CallsOf blocks calls) :
    ∃ store' bytes', Upgrade.saveAll room store calls = some (calls.map fun _ => .success, store') ∧
      Holds before store' bytes' (position + blocks.flatten.length) ∧
      bytes'.take position = bytes.take position := by
  induction blocks generalizing store bytes position calls with
  | nil =>
    rw [of.nil]
    exact ⟨store, bytes, rfl, holds, rfl⟩
  | cons data blocks ih =>
    rw [flatten_cons, length_append] at fits ⊢
    obtain ⟨keyCache, rest, rfl, length, ofRest⟩ := of.cons
    obtain ⟨next, bytes', saved, holds', appended⟩ :=
      holds.save_append (by omega) append length works data
    have all : min data.length (640 - position) = data.length := by omega
    have short := appended.short
    rw [all] at holds' short
    obtain ⟨store', bytes'', ran, holds'', stays⟩ := ih holds' short (by omega) ofRest
    have first : bytes'.take position = bytes.take position := by
      have kept := congrArg (List.take position) appended.kept
      rwa [take_take, Nat.min_eq_left (Nat.le_add_right _ _), kept_take holds.inside] at kept
    rw [Nat.add_assoc] at holds''
    refine ⟨store', bytes'', ?_, holds'', ?_⟩
    · rw [Upgrade.saveAll, saved, if_pos (by omega), bind_some]
      dsimp only
      rw [ran]
      rfl
    · have early := congrArg (List.take position) stays
      rwa [take_take, take_take, Nat.min_eq_left (Nat.le_add_right _ _), first] at early

theorem headD_append (data rest : List UInt8) :
    (data ++ rest).headD 0 = (data ++ [rest.headD 0]).headD 0 := by
  cases data with
  | nil => rfl
  | cons byte data => rfl

theorem PadAdverse.ne_head {rest : List UInt8}
    (adverse : PadAdverse bytes position pad ((data ++ rest).headD 0))
    (loses : LosesByte position data) (differs : pad ≠ data.head?) :
    bytes[position]? ≠ data.head? := by
  rw [adverse loses.1]
  cases data with
  | nil => exact fun same => by contradiction
  | cons byte data =>
    rw [List.head?_cons] at differs ⊢
    cases pad with
    | some filled => exact differs
    | none =>
      rw [List.cons_append, List.headD_cons, Option.getD_none]
      intro same
      have next := Option.some.inj same
      have zero : (1 : UInt8) = 0 := by
        calc
          (1 : UInt8) = 1 + byte - byte := (UInt8.add_sub_cancel 1 byte).symm
          _ = 0 := by rw [UInt8.add_comm, next, UInt8.sub_self]
      exact absurd zero (by decide)

theorem Holds.keepsBytes_of_adverse (works : ∀ keys key data, room keys key data = true)
    (holds : Holds before store bytes log.length) (same : bytes.take log.length = log)
    (append : bytes.length ≤ log.length + 1)
    (adverse : PadAdverse bytes log.length pad (blocks.flatten.headD 0))
    (fits : log.length + blocks.flatten.length < 640) :
    ∃ store' bytes', Upgrade.saveAll room store (adverseCalls blocks) =
        some ((adverseCalls blocks).map fun _ => .success, store') ∧
      Holds before store' bytes' (log.length + blocks.flatten.length) ∧
      (bytes'.take (log.length + blocks.flatten.length) = log ++ blocks.flatten →
        KeepsBytes log pad blocks) := by
  induction blocks generalizing store bytes log pad with
  | nil => exact ⟨store, bytes, rfl, holds, fun _ => trivial⟩
  | cons data blocks ih =>
    rw [flatten_cons, length_append] at fits ⊢
    rw [flatten_cons] at adverse
    have stack : (List.replicate 64 (blocks.flatten.headD 0 + 1)).length = 64 :=
      List.length_replicate
    obtain ⟨next, bytes', saved, holds', appended⟩ :=
      holds.save_append (by omega) append stack works data
    have all : min data.length (640 - log.length) = data.length := by omega
    have whole : data.take (640 - log.length) = data := take_of_length_le (by omega)
    have short := appended.short
    have kept := appended.kept
    rw [all] at holds' short kept
    rw [whole] at kept
    have first : Upgrade.saveAll room store (adverseCalls (data :: blocks)) =
        (Upgrade.saveAll room next (adverseCalls blocks)).map fun (codes, store) =>
          (.success :: codes, store) := by
      rw [adverseCalls, Upgrade.saveAll, saved, if_pos (by omega), bind_some]
    rw [first, adverseCalls, map_cons]
    by_cases lost : LosesByte log.length data ∧ pad ≠ data.head?
    · obtain ⟨store', bytes'', ran, holds'', stays⟩ :=
        holds'.saveAll_stays works short (by omega) (callsOf_adverseCalls blocks)
      rw [Nat.add_assoc] at holds''
      refine ⟨store', bytes'', by rw [ran]; rfl, holds'', fun whole' => ?_⟩
      have differs := adverse.ne_head lost.1 lost.2
      have positive : 0 < data.length := by
        have one := lost.1.2
        rw [roundSize] at one
        omega
      have there : bytes''[log.length]? = data.head? := by
        have item := congrArg (fun items : List UInt8 => items[log.length]?) whole'
        rw [List.getElem?_take_of_lt (by omega), List.getElem?_append_right (Nat.le_refl _),
          Nat.sub_self, List.getElem?_append_left positive] at item
        rw [item, List.head?_eq_getElem?]
      have stayed : bytes''[log.length]? = bytes[log.length]? := by
        have item := congrArg (fun items : List UInt8 => items[log.length]?) (stays.trans kept)
        have inside := holds.inside
        have even := holds.even
        have odd := lost.1.1
        rw [List.getElem?_take_of_lt (by omega), Upgrade.kept, if_pos lost.1,
          List.getElem?_append_left (by rw [length_take]; omega),
          List.getElem?_take_of_lt (by omega)] at item
        exact item
      exact absurd (stayed.symm.trans there) differs
    · have filled : LosesByte log.length data → bytes[log.length]? = data.head? := by
        intro loses
        have isPad : pad = data.head? := not_not.mp fun differs => lost ⟨loses, differs⟩
        have filledUp := adverse loses.1
        cases data with
        | nil => exact absurd loses.2 (by rw [roundSize, length_nil, Nat.zero_min]; decide)
        | cons byte data => rw [filledUp, isPad]; rfl
      have same' : bytes'.take (log ++ data).length = log ++ data := by
        rwa [kept_eq same filled, ← length_append] at kept
      rw [headD_append] at adverse
      have adverse' := appended.padAdverse (by omega) holds'.even holds'.inside same' adverse
      rw [← length_append] at holds' short
      obtain ⟨store', bytes'', ran, holds'', keeps⟩ := ih holds' same' short adverse'
        (by rw [length_append]; omega)
      rw [length_append, Nat.add_assoc] at holds'' keeps
      refine ⟨store', bytes'', by rw [ran]; rfl, holds'', fun whole' => ⟨fun loses => ?_, ?_⟩⟩
      · exact not_not.mp fun differs => lost ⟨loses, differs⟩
      · exact keeps (by rw [whole', append_assoc])

theorem Holds.not_all_success (works : ∀ keys key data, room keys key data = true)
    (holds : Holds before store bytes position) (inKeys : position < 640)
    (append : bytes.length ≤ position + 1) (full : 640 ≤ position + blocks.flatten.length)
    (of : CallsOf blocks calls) (store' : HeaderStore) :
    Upgrade.saveAll room store calls ≠ some (calls.map fun _ => .success, store') := by
  induction blocks generalizing store bytes position calls with
  | nil =>
    rw [List.flatten_nil, length_nil] at full
    omega
  | cons data blocks ih =>
    rw [flatten_cons, length_append] at full
    obtain ⟨keyCache, rest, rfl, length, ofRest⟩ := of.cons
    obtain ⟨next, bytes', saved, holds', appended⟩ :=
      holds.save_append inKeys append length works data
    rw [Upgrade.saveAll, saved, bind_some]
    dsimp only
    intro ran
    obtain ⟨⟨codes, final⟩, ranRest, same⟩ := Option.map_eq_some_iff.mp ran
    rw [Prod.mk.injEq, map_cons, List.cons.injEq] at same
    obtain ⟨⟨code, rfl⟩, rfl⟩ := same
    by_cases fits : position + data.length < 640
    · have all : min data.length (640 - position) = data.length := by omega
      have short := appended.short
      rw [all] at holds' short
      exact ih holds' fits short (by omega) ofRest ranRest
    · rw [if_neg fits] at code
      contradiction

/-- Blocks are kept as they are, whatever is on the stack, if and only if they are less than
640 bytes, and no single byte for an odd place is lost. -/
theorem faithfulLog_iff (works : ∀ keys key data, room keys key data = true) :
    FaithfulLog room blocks ↔ blocks.flatten.length < 640 ∧ KeepsBytes [] none blocks := by
  refine ⟨fun faithful => ?_, fun condition =>
    faithfulLog_of_keepsBytes works condition.1 condition.2⟩
  have cleared : Cleared ⟨fun _ => [], dfuHeaderPskeyStart, 0⟩ := ⟨fun _ _ => rfl, rfl, rfl⟩
  obtain ⟨store', ran, keepsLog, _⟩ := faithful _ _ cleared (callsOf_adverseCalls blocks)
  have less : blocks.flatten.length < 640 := by
    refine Nat.lt_of_not_le fun full => ?_
    exact cleared.holds.not_all_success works (by decide) (Nat.zero_le _)
      (by rwa [Nat.zero_add]) (callsOf_adverseCalls blocks) store' ran
  refine ⟨less, ?_⟩
  have start : ([] : List UInt8).length + blocks.flatten.length < 640 := by
    rwa [length_nil, Nat.zero_add]
  have adverse : PadAdverse [] ([] : List UInt8).length none (blocks.flatten.headD 0) :=
    fun odd => by contradiction
  obtain ⟨store'', bytes, ran', holds, keeps⟩ :=
    Holds.keepsBytes_of_adverse works cleared.holds rfl (Nat.zero_le _) adverse start
  obtain rfl : store' = store'' := by
    rw [ran', Option.some.injEq, Prod.mk.injEq] at ran
    exact ran.2.symm
  obtain ⟨padding, stored, _⟩ := keepsLog.bytes
  rw [holds.storedBytes] at stored
  refine keeps ?_
  rw [stored, length_nil, Nat.zero_add, take_left, nil_append]

theorem faithfulLog_iff_odd :
    FaithfulLog (fun _ _ _ => true) [[1, 2, 3, 4, 5], [6, 7, 8], [9]] := by
  refine (faithfulLog_iff fun _ _ _ => rfl).mpr ⟨by decide, ?_⟩
  exact ⟨fun loses => absurd loses (by decide), fun loses => absurd loses (by decide),
    fun loses => absurd loses (by decide), trivial⟩

/-- Of one byte and one byte more the second is lost. -/
theorem second_byte_lost :
    ¬ ∀ blocks : List (List UInt8), blocks.flatten.length ≤ 640 →
      FaithfulLog (fun _ _ _ => true) blocks := by
  intro faithful
  have cleared : Cleared ⟨fun _ => [], dfuHeaderPskeyStart, 0⟩ := ⟨fun _ _ => rfl, rfl, rfl⟩
  obtain ⟨store', ran, keepsLog, _⟩ := faithful [[1], [2]] (by decide) _
    [(List.replicate 64 0, [1]), (List.replicate 64 0, [2])] cleared ⟨rfl, by decide⟩
  have first : (saveAll (fun _ _ _ => true) ⟨fun _ => [], dfuHeaderPskeyStart, 0⟩
      [(List.replicate 64 0, [1]), (List.replicate 64 0, [2])]).map
        (fun result => result.2.psKeys 510) = some [1, 0] := by
    decide
  rw [ran, map_some, Option.some.injEq] at first
  obtain ⟨padding, stored, _⟩ := keepsLog.bytes
  rw [storedBytes, dfuHeaderPskeyLen, List.range_succ_eq_map, List.flatMap_cons] at stored
  change store'.psKeys 510 ++ _ = _ at stored
  rw [first] at stored
  have differ := congrArg (fun items : List UInt8 => items[1]?) stored
  exact absurd (Option.some.inj differ) (by decide)

end Runs

end HeadsetAdk.Upgrade
