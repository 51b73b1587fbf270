import HeadsetAdk.Lib.LittleEndian
import Mathlib.Logic.Function.Basic

/-!
# Values in a byte stream

A build of `byte_utils.c` has the stream in bytes or in words of 16 bits; both put the most
significant byte first, but `ByteUtilsGet2Bytes` of the one with bytes takes it last.
-/

namespace HeadsetAdk.ByteUtils

structure Build (Buffer : Type) where
  set1Byte : Buffer → Nat → UInt8 → Buffer
  set2Bytes : Buffer → Nat → UInt16 → Buffer
  get1Byte : Buffer → Nat → UInt8
  get2Bytes : Buffer → Nat → UInt16

def hydracore : Build (Nat → UInt8) where
  set1Byte dst byteIndex val := Function.update dst byteIndex val
  set2Bytes dst byteIndex val :=
    Function.update (Function.update dst byteIndex (val >>> 8).toUInt8) (byteIndex + 1) val.toUInt8
  get1Byte src byteIndex := src byteIndex
  get2Bytes src byteIndex :=
    (src byteIndex).toUInt16 ||| (src (byteIndex + 1)).toUInt16 <<< 8

/-- The other build, where a buffer is one of words. -/
def packed : Build (Nat → UInt16) where
  set1Byte dst byteIndex val :=
    if byteIndex % 2 ≠ 0 then
      Function.update dst (byteIndex / 2) (dst (byteIndex / 2) ||| val.toUInt16)
    else Function.update dst (byteIndex / 2) (val.toUInt16 <<< 8)
  set2Bytes dst byteIndex val :=
    if byteIndex % 2 ≠ 0 then
      Function.update (Function.update dst (byteIndex / 2) (dst (byteIndex / 2) ||| val >>> 8))
        (byteIndex / 2 + 1) (val <<< 8)
    else Function.update dst (byteIndex / 2) val
  get1Byte src byteIndex :=
    if byteIndex % 2 ≠ 0 then (src (byteIndex / 2) &&& 0xFF).toUInt8
    else (src (byteIndex / 2) >>> 8).toUInt8
  get2Bytes src byteIndex :=
    if byteIndex % 2 ≠ 0 then src (byteIndex / 2) <<< 8 ||| src (byteIndex / 2 + 1) >>> 8
    else src (byteIndex / 2)

structure Getters where
  get1Byte : Nat → UInt8
  get2Bytes : Nat → UInt16
  get4Bytes : Nat → UInt32

/-- The calls that put a value to a stream. -/
inductive Call
  | set1Byte (val : UInt8)
  | set2Bytes (val : UInt16)
  | set4Bytes (val : UInt32)
  deriving DecidableEq, Repr

def Call.size : Call → Nat
  | .set1Byte _ => 1
  | .set2Bytes _ => 2
  | .set4Bytes _ => 4

namespace Build

variable {Buffer : Type} (build : Build Buffer)

def set4Bytes (dst : Buffer) (byteIndex : Nat) (val : UInt32) : Buffer :=
  build.set2Bytes (build.set2Bytes dst byteIndex (val >>> 16).toUInt16)
    ((byteIndex + 2) % 2 ^ 16) val.toUInt16

def get4Bytes (src : Buffer) (byteIndex : Nat) : UInt32 :=
  (build.get2Bytes src byteIndex).toUInt32 <<< 16 |||
    (build.get2Bytes src ((byteIndex + 2) % 2 ^ 16)).toUInt32

def call (dst : Buffer) (byteIndex : Nat) : Call → Buffer
  | .set1Byte val => build.set1Byte dst byteIndex val
  | .set2Bytes val => build.set2Bytes dst byteIndex val
  | .set4Bytes val => build.set4Bytes dst byteIndex val

def calls : Buffer → Nat → List Call → Buffer
  | dst, _, [] => dst
  | dst, byteIndex, call :: later =>
      calls (build.call dst byteIndex call) (byteIndex + call.size) later

def getters (src : Buffer) : Getters :=
  ⟨build.get1Byte src, build.get2Bytes src, build.get4Bytes src⟩

end Build

/-- `ByteUtilsGet1ByteFromStream`, `ByteUtilsGet2BytesFromStream` and
`ByteUtilsGet4BytesFromStream`, with a pointer to a byte of the stream. -/
def fromStream (src : Nat → UInt8) : Getters where
  get1Byte byteIndex := src byteIndex
  get2Bytes byteIndex := (src (byteIndex + 1)).toUInt16 ||| (src byteIndex).toUInt16 <<< 8
  get4Bytes byteIndex :=
    let byte (index : Nat) : UInt32 := (src (byteIndex + index)).toUInt32 &&& 0xFF
    byte 3 ||| byte 2 <<< 8 ||| byte 1 <<< 16 ||| byte 0 <<< 24

/-- A value is got as it was put. -/
def Getters.Gets (getters : Getters) (byteIndex : Nat) : Call → Prop
  | .set1Byte val => getters.get1Byte byteIndex = val
  | .set2Bytes val => getters.get2Bytes byteIndex = val
  | .set4Bytes val => getters.get4Bytes byteIndex = val

/-- The values of all calls are got at the same places. -/
def Getters.GetsAll (getters : Getters) : Nat → List Call → Prop
  | _, [] => True
  | byteIndex, call :: calls =>
      getters.Gets byteIndex call ∧ getters.GetsAll (byteIndex + call.size) calls

/-- How far the calls go. -/
def streamSize : List Call → Nat
  | [] => 0
  | call :: calls => call.size + streamSize calls

def bigEndian (words : Nat → UInt16) (byteIndex : Nat) : UInt8 :=
  if byteIndex % 2 = 0 then (words (byteIndex / 2) >>> 8).toUInt8
  else (words (byteIndex / 2)).toUInt8

/-- Whatever was in the buffers, the builds put the same bytes, and get the values back. -/
def AccessorsAgree (start : Nat) (calls : List Call) : Prop :=
  ∀ (dst : Nat → UInt8) (words : Nat → UInt16),
    (∀ byteIndex, start ≤ byteIndex → byteIndex < start + streamSize calls →
      hydracore.calls dst start calls byteIndex =
        bigEndian (packed.calls words start calls) byteIndex) ∧
    (hydracore.getters (hydracore.calls dst start calls)).GetsAll start calls ∧
    (packed.getters (packed.calls words start calls)).GetsAll start calls ∧
    (fromStream (hydracore.calls dst start calls)).GetsAll start calls

def SameBytes (val : UInt16) : Prop := (val >>> 8).toUInt8 = val.toUInt8

/-- The value does not change when the bytes of its halves change places. -/
def Call.Symmetric : Call → Prop
  | .set1Byte _ => True
  | .set2Bytes val => SameBytes val
  | .set4Bytes val => SameBytes (val >>> 16).toUInt16 ∧ SameBytes val.toUInt16

def word (high low : UInt8) : UInt16 := high.toUInt16 <<< 8 ||| low.toUInt16

/-- A number of two words. -/
def long (high low : UInt16) : UInt32 := high.toUInt32 <<< 16 ||| low.toUInt32

theorem word_toNat (high low : UInt8) : (word high low).toNat = low.toNat + 256 * high.toNat := by
  have bound := high.toNat_lt
  simp only [word, UInt16.toNat_or, UInt16.toNat_shiftLeft, UInt8.toNat_toUInt16]
  rw [Nat.mod_eq_of_lt]
  · exact LittleEndian.shift_or_byte high.toNat low
  · change high.toNat <<< 8 < 2 ^ 16
    rw [Nat.shiftLeft_eq]
    omega

theorem word_high (high low : UInt8) : (word high low >>> 8).toUInt8 = high := by
  have bound := low.toNat_lt
  have bound' := high.toNat_lt
  apply UInt8.toNat_inj.mp
  simp [word_toNat, Nat.shiftRight_eq_div_pow]
  omega

theorem word_low (high low : UInt8) : (word high low).toUInt8 = low := by
  apply UInt8.toNat_inj.mp
  simp [word_toNat]

theorem word_bytes (val : UInt16) : word (val >>> 8).toUInt8 val.toUInt8 = val := by
  have bound := val.toNat_lt
  apply UInt16.toNat_inj.mp
  simp [word_toNat, Nat.shiftRight_eq_div_pow]
  omega

theorem upper_byte (val : UInt16) : (val >>> 8).toUInt8.toUInt16 = val >>> 8 := by
  have bound := val.toNat_lt
  apply UInt16.toNat_inj.mp
  simp [Nat.shiftRight_eq_div_pow]
  omega

theorem lower_byte (val : UInt16) : val.toUInt8.toUInt16 <<< 8 = val <<< 8 := by
  apply UInt16.toNat_inj.mp
  simp [Nat.shiftLeft_eq]
  omega

theorem long_toNat (high low : UInt16) :
    (long high low).toNat = low.toNat + 65536 * high.toNat := by
  have bound := high.toNat_lt
  have shifted : high.toNat <<< 16 ||| low.toNat = low.toNat + 65536 * high.toNat := by
    rw [← Nat.shiftLeft_add_eq_or_of_lt low.toNat_lt, Nat.shiftLeft_eq]
    omega
  simp only [long, UInt32.toNat_or, UInt32.toNat_shiftLeft, UInt16.toNat_toUInt32]
  rw [Nat.mod_eq_of_lt]
  · exact shifted
  · change high.toNat <<< 16 < 2 ^ 32
    rw [Nat.shiftLeft_eq]
    omega

theorem long_words (val : UInt32) : long (val >>> 16).toUInt16 val.toUInt16 = val := by
  have bound := val.toNat_lt
  apply UInt32.toNat_inj.mp
  simp [long_toNat, Nat.shiftRight_eq_div_pow]
  omega

theorem long_eq_iff {high low : UInt16} (val : UInt32) :
    long high low = val ↔ high = (val >>> 16).toUInt16 ∧ low = val.toUInt16 := by
  constructor
  · rintro rfl
    have bound := low.toNat_lt
    have bound' := high.toNat_lt
    constructor
    · apply UInt16.toNat_inj.mp
      simp [long_toNat, Nat.shiftRight_eq_div_pow]
      omega
    · apply UInt16.toNat_inj.mp
      simp [long_toNat]
  · rintro ⟨rfl, rfl⟩
    exact long_words val

section Putting

variable {Buffer : Type} {build : Build Buffer} {byteIndex : Nat}

def wordBytes (val : UInt16) : List UInt8 := [(val >>> 8).toUInt8, val.toUInt8]

def Call.bytes : Call → List UInt8
  | .set1Byte val => [val]
  | .set2Bytes val => wordBytes val
  | .set4Bytes val => wordBytes (val >>> 16).toUInt16 ++ wordBytes val.toUInt16

def Build.setAll (build : Build Buffer) : Buffer → Nat → List UInt8 → Buffer
  | dst, _, [] => dst
  | dst, byteIndex, val :: bytes =>
      build.setAll (build.set1Byte dst byteIndex val) (byteIndex + 1) bytes

theorem setAll_append (dst : Buffer) (byteIndex : Nat) (first second : List UInt8) :
    build.setAll dst byteIndex (first ++ second) =
      build.setAll (build.setAll dst byteIndex first) (byteIndex + first.length) second := by
  induction first generalizing dst byteIndex with
  | nil => rfl
  | cons val first ih =>
    rw [List.cons_append, Build.setAll, ih, List.length_cons, Nat.add_right_comm]
    rfl

theorem Call.length_bytes (call : Call) : call.bytes.length = call.size := by
  cases call <;> rfl

theorem length_flatMap_bytes (calls : List Call) :
    (calls.flatMap Call.bytes).length = streamSize calls := by
  induction calls with
  | nil => rfl
  | cons call calls ih =>
    rw [List.flatMap_cons, List.length_append, call.length_bytes, ih, streamSize]

variable {start : Nat} {dst : Nat → UInt16}

theorem calls_eq_setAll (words : ∀ dst byteIndex val,
      build.set2Bytes dst byteIndex val = build.setAll dst byteIndex (wordBytes val))
    {calls : List Call} (fits : start + streamSize calls ≤ 2 ^ 16) (dst : Buffer) :
    build.calls dst start calls = build.setAll dst start (calls.flatMap Call.bytes) := by
  induction calls generalizing dst start with
  | nil => rfl
  | cons call calls ih =>
    rw [streamSize] at fits
    rw [Build.calls, ih (by omega), List.flatMap_cons, setAll_append, call.length_bytes]
    congr 1
    cases call with
    | set1Byte val => rfl
    | set2Bytes val => exact words dst start val
    | set4Bytes val =>
      rw [Call.size] at fits
      rw [Build.call, Build.set4Bytes, Nat.mod_eq_of_lt (by omega), words, words]
      rfl

theorem packed_even (even : byteIndex % 2 = 0) (val : UInt8) : packed.set1Byte dst byteIndex val =
      Function.update dst (byteIndex / 2) (val.toUInt16 <<< 8) := if_neg (by omega)

theorem packed_odd (odd : byteIndex % 2 = 1) (val : UInt8) : packed.set1Byte dst byteIndex val =
      Function.update dst (byteIndex / 2) (dst (byteIndex / 2) ||| val.toUInt16) :=
  if_pos (by omega)

theorem packed_set2Bytes (dst : Nat → UInt16) (byteIndex : Nat) (val : UInt16) :
    packed.set2Bytes dst byteIndex val = packed.setAll dst byteIndex (wordBytes val) := by
  rw [wordBytes, Build.setAll, Build.setAll, Build.setAll]
  obtain even | odd := Nat.mod_two_eq_zero_or_one byteIndex
  · rw [packed_even even, packed_odd (by omega), show (byteIndex + 1) / 2 = byteIndex / 2 by omega,
      Function.update_idem, Function.update_self]
    exact (if_neg (by omega)).trans (congrArg _ (word_bytes val).symm)
  · rw [packed_odd odd, packed_even (by omega),
      show (byteIndex + 1) / 2 = byteIndex / 2 + 1 by omega, upper_byte, lower_byte]
    exact if_pos (by omega)

/-- A byte that is put is at its place, and the ones before it stay, when the place is
ready for it. -/
structure Stores (build : Build Buffer) (view : Buffer → Nat → UInt8)
    (ready : Buffer → Nat → Prop) : Prop where
  here : ∀ dst byteIndex val, ready dst byteIndex →
    view (build.set1Byte dst byteIndex val) byteIndex = val
  before : ∀ dst byteIndex val, ready dst byteIndex → ∀ earlier < byteIndex,
    view (build.set1Byte dst byteIndex val) earlier = view dst earlier
  next : ∀ dst byteIndex val, ready (build.set1Byte dst byteIndex val) (byteIndex + 1)

def Holds (view : Nat → UInt8) : Nat → List UInt8 → Prop
  | _, [] => True
  | byteIndex, val :: bytes => view byteIndex = val ∧ Holds view (byteIndex + 1) bytes

theorem Stores.setAll {view : Buffer → Nat → UInt8} {ready : Buffer → Nat → Prop}
    (stores : Stores build view ready) {dst : Buffer}
    (isReady : ready dst byteIndex) (bytes : List UInt8) :
    (∀ earlier < byteIndex, view (build.setAll dst byteIndex bytes) earlier = view dst earlier) ∧
      Holds (view (build.setAll dst byteIndex bytes)) byteIndex bytes := by
  induction bytes generalizing dst byteIndex with
  | nil => exact ⟨fun _ _ => rfl, trivial⟩
  | cons val bytes ih =>
    obtain ⟨stays, holds⟩ := ih (stores.next dst byteIndex val)
    refine ⟨fun earlier less => ?_, ?_, holds⟩
    · exact (stays earlier (Nat.lt_succ_of_lt less)).trans
        (stores.before dst byteIndex val isReady earlier less)
    · exact (stays byteIndex (Nat.lt_succ_self _)).trans
        (stores.here dst byteIndex val isReady)

theorem Holds.agree {first second : Nat → UInt8} {bytes : List UInt8}
    (holds : Holds first start bytes) (holds' : Holds second start bytes)
    (from_ : start ≤ byteIndex) (below : byteIndex < start + bytes.length) :
    first byteIndex = second byteIndex := by
  induction bytes generalizing start with
  | nil => exact absurd below (Nat.not_lt.mpr from_)
  | cons val bytes ih =>
    obtain rfl | later := Nat.eq_or_lt_of_le from_
    · exact holds.1.trans holds'.1.symm
    · rw [List.length_cons] at below
      exact ih holds.2 holds'.2 later (by omega)

theorem hydracore_stores : Stores hydracore (fun dst => dst) fun _ _ => True where
  here _ _ _ _ := Function.update_self ..
  before _ _ _ _ _ less := Function.update_of_ne (Nat.ne_of_lt less) ..
  next _ _ _ := trivial

/-- The lower byte of a word can be put when it is zero. -/
def Ready (dst : Nat → UInt16) (byteIndex : Nat) : Prop :=
  byteIndex % 2 = 1 → ∃ high : UInt8, dst (byteIndex / 2) = high.toUInt16 <<< 8

theorem bigEndian_of_eq {words : Nat → UInt16} {high low : UInt8}
    (same : words (byteIndex / 2) = word high low) :
    bigEndian words byteIndex = if byteIndex % 2 = 0 then high else low := by
  rw [bigEndian, same, word_high, word_low]

theorem word_zero (high : UInt8) : high.toUInt16 <<< 8 = word high 0 := UInt16.or_zero.symm

theorem packed_stores : Stores packed bigEndian Ready where
  here dst byteIndex val ready := by
    obtain even | odd := Nat.mod_two_eq_zero_or_one byteIndex
    · rw [packed_even even, word_zero, bigEndian_of_eq (Function.update_self ..), if_pos even]
    · obtain ⟨high, upper⟩ := ready odd
      rw [packed_odd odd, upper]
      have here : Function.update dst (byteIndex / 2) (word high val) (byteIndex / 2) =
          word high val := Function.update_self ..
      exact (bigEndian_of_eq here).trans (if_neg (by omega))
  before dst byteIndex val ready earlier less := by
    obtain even | odd := Nat.mod_two_eq_zero_or_one byteIndex
    · rw [packed_even even, bigEndian, bigEndian, Function.update_of_ne (by omega)]
    · obtain ⟨high, upper⟩ := ready odd
      have first : earlier / 2 = byteIndex / 2 → earlier % 2 = 0 := by omega
      rw [packed_odd odd, upper, bigEndian, bigEndian]
      by_cases same : earlier / 2 = byteIndex / 2
      · rw [if_pos (first same), if_pos (first same), same, Function.update_self, upper]
        have zero := word_high high 0
        rw [← word_zero] at zero
        exact (word_high high val).trans zero.symm
      · rw [Function.update_of_ne same]
  next dst byteIndex val odd := by
    refine ⟨val, ?_⟩
    rw [packed_even (by omega), show (byteIndex + 1) / 2 = byteIndex / 2 by omega,
      Function.update_self]

end Putting

section Getting

variable {getters : Getters} {view : Nat → UInt8} {order : UInt8 → UInt8 → UInt16}

structure Ordered (order : UInt8 → UInt8 → UInt16) (getters : Getters) (view : Nat → UInt8) :
    Prop where
  one : ∀ byteIndex, getters.get1Byte byteIndex = view byteIndex
  two : ∀ byteIndex, getters.get2Bytes byteIndex = order (view byteIndex) (view (byteIndex + 1))
  four : ∀ byteIndex, byteIndex + 4 ≤ 2 ^ 16 →
    getters.get4Bytes byteIndex = long (order (view byteIndex) (view (byteIndex + 1)))
      (order (view (byteIndex + 2)) (view (byteIndex + 3)))

def Call.Kept (order : UInt8 → UInt8 → UInt16) : Call → Prop
  | .set1Byte _ => True
  | .set2Bytes val => order (val >>> 8).toUInt8 val.toUInt8 = val
  | .set4Bytes val =>
      long (order ((val >>> 16).toUInt16 >>> 8).toUInt8 (val >>> 16).toUInt16.toUInt8)
        (order (val.toUInt16 >>> 8).toUInt8 val.toUInt16.toUInt8) = val

theorem Holds.split {byteIndex : Nat} {first second : List UInt8}
    (holds : Holds view byteIndex (first ++ second)) :
    Holds view byteIndex first ∧ Holds view (byteIndex + first.length) second := by
  induction first generalizing byteIndex with
  | nil => exact ⟨trivial, holds⟩
  | cons val first ih =>
    obtain ⟨here, rest⟩ := ih holds.2
    rw [List.length_cons, ← Nat.add_assoc, Nat.add_right_comm]
    exact ⟨⟨holds.1, here⟩, rest⟩

theorem Ordered.gets_iff (ordered : Ordered order getters view) {byteIndex : Nat} {call : Call}
    (fits : byteIndex + call.size ≤ 2 ^ 16) (holds : Holds view byteIndex call.bytes) :
    getters.Gets byteIndex call ↔ call.Kept order := by
  cases call with
  | set1Byte val => exact iff_of_true ((ordered.one byteIndex).trans holds.1) trivial
  | set2Bytes val =>
    rw [Getters.Gets, ordered.two, holds.1, holds.2.1]
    rfl
  | set4Bytes val =>
    rw [Getters.Gets, ordered.four byteIndex fits, holds.1, holds.2.1, holds.2.2.1, holds.2.2.2.1]
    rfl

theorem Ordered.getsAll_iff (ordered : Ordered order getters view) {start : Nat}
    {calls : List Call} (fits : start + streamSize calls ≤ 2 ^ 16)
    (holds : Holds view start (calls.flatMap Call.bytes)) :
    getters.GetsAll start calls ↔ ∀ call ∈ calls, call.Kept order := by
  induction calls generalizing start with
  | nil => exact iff_of_true trivial (List.forall_mem_nil _)
  | cons call calls ih =>
    rw [streamSize] at fits
    obtain ⟨here, rest⟩ := holds.split
    rw [call.length_bytes] at rest
    rw [List.forall_mem_cons]
    exact and_congr (ordered.gets_iff (by omega) here) (ih (by omega) rest)

theorem Call.kept_word (call : Call) : call.Kept word := by
  cases call with
  | set1Byte val => exact trivial
  | set2Bytes val => exact word_bytes val
  | set4Bytes val => exact (congrArg₂ long (word_bytes _) (word_bytes _)).trans (long_words val)

theorem swapped_iff (val : UInt16) :
    word val.toUInt8 (val >>> 8).toUInt8 = val ↔ SameBytes val := by
  constructor
  · intro same
    have high := word_high val.toUInt8 (val >>> 8).toUInt8
    rw [same] at high
    exact high
  · intro same
    have bytes := word_bytes val
    rw [same] at bytes ⊢
    exact bytes

theorem Call.kept_swapped_iff (call : Call) :
    call.Kept (fun first second => word second first) ↔ call.Symmetric := by
  cases call with
  | set1Byte val => exact Iff.rfl
  | set2Bytes val => exact swapped_iff val
  | set4Bytes val =>
    exact (long_eq_iff val).trans (and_congr (swapped_iff _) (swapped_iff _))

theorem Build.ordered {Buffer : Type} {build : Build Buffer} {src : Buffer}
    (one : ∀ byteIndex, build.get1Byte src byteIndex = view byteIndex)
    (two : ∀ byteIndex,
      build.get2Bytes src byteIndex = order (view byteIndex) (view (byteIndex + 1))) :
    Ordered order (build.getters src) view where
  one := one
  two := two
  four byteIndex fits := by
    rw [Build.getters]
    dsimp only
    rw [Build.get4Bytes, Nat.mod_eq_of_lt (by omega), two, two]
    rfl

theorem hydracore_ordered (src : Nat → UInt8) :
    Ordered (fun first second => word second first) (hydracore.getters src) src :=
  Build.ordered (fun _ => rfl) fun _ => UInt16.or_comm ..

theorem packed_get2Bytes (src : Nat → UInt16) (byteIndex : Nat) :
    packed.get2Bytes src byteIndex =
      word (bigEndian src byteIndex) (bigEndian src (byteIndex + 1)) := by
  obtain even | odd := Nat.mod_two_eq_zero_or_one byteIndex
  · rw [bigEndian, if_pos even, bigEndian, if_neg (by omega),
      show (byteIndex + 1) / 2 = byteIndex / 2 by omega, word_bytes]
    exact if_neg (by omega)
  · rw [bigEndian, if_neg (by omega), bigEndian, if_pos (by omega),
      show (byteIndex + 1) / 2 = byteIndex / 2 + 1 by omega, word, upper_byte, lower_byte]
    exact if_pos (by omega)

theorem packed_get1Byte (src : Nat → UInt16) (byteIndex : Nat) :
    packed.get1Byte src byteIndex = bigEndian src byteIndex := by
  have masked : (src (byteIndex / 2) &&& 0xFF).toUInt8 = (src (byteIndex / 2)).toUInt8 := by
    apply UInt8.toNat_inj.mp
    simp [Nat.and_two_pow_sub_one_eq_mod _ 8]
  rw [bigEndian, ← masked]
  exact ite_not ..

theorem fromStream_ordered (src : Nat → UInt8) : Ordered word (fromStream src) src where
  one byteIndex := rfl
  two byteIndex := UInt16.or_comm ..
  four byteIndex fits := by
    have first := (src byteIndex).toNat_lt
    have second := (src (byteIndex + 1)).toNat_lt
    have third := (src (byteIndex + 2)).toNat_lt
    have bytes := LittleEndian.value_four (src (byteIndex + 3)) (src (byteIndex + 2))
      (src (byteIndex + 1)) (src byteIndex)
    simp only [LittleEndian.value, Nat.shiftLeft_eq] at bytes
    apply UInt32.toNat_inj.mp
    simp only [fromStream, UInt32.toNat_or, UInt32.toNat_and, UInt32.toNat_shiftLeft,
      UInt8.toNat_toUInt32, long_toNat, word_toNat]
    simp [Nat.shiftLeft_eq, Nat.and_two_pow_sub_one_eq_mod _ 8]
    simp (disch := omega) only [Nat.mod_eq_of_lt]
    rw [Nat.or_comm, Nat.or_comm (_ ||| _), Nat.or_comm (src (byteIndex + 3)).toNat,
      ← Nat.or_assoc, ← Nat.or_assoc]
    exact bytes.trans (by omega)

end Getting

/-- The builds agree when no value has a word whose bytes differ. -/
theorem accessorsAgree_iff {start : Nat} {calls : List Call} (aligned : start % 2 = 0)
    (fits : start + streamSize calls ≤ 2 ^ 16) :
    AccessorsAgree start calls ↔ ∀ call ∈ calls, call.Symmetric := by
  have bytes (dst : Nat → UInt8) :
      Holds (hydracore.calls dst start calls) start (calls.flatMap Call.bytes) := by
    rw [calls_eq_setAll (fun _ _ _ => rfl) fits]
    exact (hydracore_stores.setAll trivial _).2
  have pairs (words : Nat → UInt16) :
      Holds (bigEndian (packed.calls words start calls)) start (calls.flatMap Call.bytes) := by
    rw [calls_eq_setAll packed_set2Bytes fits]
    exact (packed_stores.setAll (fun odd => by omega) _).2
  constructor
  · intro agree call member
    have gets := (agree (fun _ => 0) fun _ => 0).2.1
    exact call.kept_swapped_iff.mp
      (((hydracore_ordered _).getsAll_iff fits (bytes _)).mp gets call member)
  · intro symmetric dst words
    refine ⟨fun byteIndex from_ below => ?_, ?_, ?_, ?_⟩
    · exact (bytes dst).agree (pairs words) from_ (by rwa [length_flatMap_bytes])
    · exact ((hydracore_ordered _).getsAll_iff fits (bytes dst)).mpr fun call member =>
        call.kept_swapped_iff.mpr (symmetric call member)
    · exact ((Build.ordered (packed_get1Byte _) (packed_get2Bytes _)).getsAll_iff fits
        (pairs words)).mpr fun call _ => call.kept_word
    · exact ((fromStream_ordered _).getsAll_iff fits (bytes dst)).mpr fun call _ => call.kept_word

theorem sameBytes_agree : AccessorsAgree 4 [.set1Byte 7, .set2Bytes 0x0202] :=
  (accessorsAgree_iff rfl (by decide)).mpr
    (List.forall_mem_cons.mpr ⟨trivial, List.forall_mem_singleton.mpr rfl⟩)

/-- A value with two bytes is got with its bytes exchanged. -/
theorem bytes_exchanged : ¬ AccessorsAgree 0 [.set2Bytes 0x0102] := by
  intro agree
  have got := (agree (fun _ => 0) fun _ => 0).2.1.1
  exact absurd (show (0x0201 : UInt16) = 0x0102 from got) (by decide)

end HeadsetAdk.ByteUtils
