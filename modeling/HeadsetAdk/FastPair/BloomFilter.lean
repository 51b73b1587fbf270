import Mathlib.Data.List.Basic
import Mathlib.Data.List.FinRange
import Mathlib.Data.List.Induction
import Mathlib.Data.Nat.Bitwise
import Mathlib.Tactic.IntervalCases

/-!
# The account key filter of Fast Pair

`fast_pair_bloom_filter.c` hashes the account keys one after the other, and drops requests that come
meanwhile.
-/

namespace HeadsetAdk.FastPair

namespace BloomFilter

abbrev Key := Vector UInt8 16

/-- `MAX_NUM_ACCOUNT_KEYS` -/
def maxNumAccountKeys : Nat := 5

/-- One entry of `user_account_key_info_t`. -/
structure Account where
  key : Key
  numHandsetsLinked : UInt8
  fastPairType : Bool

/-- `UserAccounts_GetAccountKeys` for the keys of Fast Pair. -/
def getAccountKeys (accounts : Fin maxNumAccountKeys → Account) : List Key :=
  ((List.finRange maxNumAccountKeys).filter fun count =>
    0 < (accounts count).numHandsetsLinked && (accounts count).fastPairType).map fun count =>
      (accounts count).key

/-- The first key that is the one in use gets another first octet. -/
def markInUse (inUse : Key) (active : Bool) : List Key → List Key
  | [] => []
  | key :: keys =>
    if key = inUse then key.set 0 (if active then 0x06 else 0x05) :: keys
    else key :: markInUse inUse active keys

structure Request where
  accounts : Fin maxNumAccountKeys → Account
  inUse : Option (Key × Bool)
  salt : UInt16
  battery : List UInt8

def Request.keys (request : Request) : List Key :=
  match request.inUse with
  | some (inUse, active) => markInUse inUse active (getAccountKeys request.accounts)
  | none => getAccountKeys request.accounts

def Request.saltOctets (request : Request) : List UInt8 :=
  [UInt8.ofNat ((request.salt.toNat >>> 8) &&& 0xFF), UInt8.ofNat (request.salt.toNat &&& 0xFF)]

/-- `fastpair_bloom_filter_data_t`, where a buffer has its length, with the data that wait to be
hashed. -/
structure State where
  generating : Option (List UInt8)
  ready : Option (List UInt8)
  shaHashLock : Bool
  accountKeys : List Key
  filterSize : Nat
  numberOfKeysProcessed : Nat
  temp : List UInt8
  hashing : List (List UInt8)

/-- `fastPair_InitBloomFilter` -/
def State.init : State := ⟨none, none, false, [], 0, 0, [], []⟩

def write (buffer : List UInt8) (index : Nat) (value : UInt8) : Option (List UInt8) :=
  if index < buffer.length then some (buffer.set index value) else none

/-- The octets around the filter, which is empty. -/
def layOut (size filterSize : Nat) (salt : List UInt8) : Option (List UInt8) := do
  let buffer ← write (List.replicate size 0) 0 0
  let buffer ← write buffer 1 (UInt8.ofNat (((filterSize <<< 4) &&& 0xF0) + 0))
  let buffer ← write buffer (size - 3) 0x21
  let buffer ← write buffer (size - 2) (salt.getD 0 0)
  write buffer (size - 1) (salt.getD 1 0)

/-- `fastPair_GenerateBloomFilter` -/
def generateBloomFilter (state : State) (request : Request) : Option State :=
  if state.shaHashLock = true then some state
  else
    let released := { state with generating := none, accountKeys := request.keys }
    match request.keys with
    | [] => some released
    | key :: _ =>
      let numKeys := request.keys.length % 256
      let filterSize := (numKeys * 6 / 5 + 3) % 256
      let size := if numKeys = 0 then 0 else (filterSize + 5) % 256
      if size = 0 then some { released with generating := some [] }
      else do
        let buffer ← layOut size filterSize request.saltOctets
        let temp := key.toList ++ (request.saltOctets ++ request.battery)
        return { released with
          generating := some buffer
          filterSize := filterSize
          temp := temp
          shaHashLock := true
          hashing := state.hashing ++ [temp]
          numberOfKeysProcessed := 1 }

/-- Sixteen words for the octets in little-endian order. -/
abbrev Sha256 := List UInt8 → Nat → UInt16

def hashValue (word next : UInt16) : Nat :=
  (word.toNat &&& 0x00FF) <<< 24 ||| (word.toNat &&& 0xFF00) <<< 8 |||
    (next.toNat &&& 0x00FF) <<< 8 ||| (next.toNat &&& 0xFF00) >>> 8

def setBit (buffer : List UInt8) (hashAccountKey : Nat) : Option (List UInt8) := do
  let octet ← buffer[2 + hashAccountKey / 8]?
  write buffer (2 + hashAccountKey / 8) (octet ||| UInt8.ofNat (1 <<< (hashAccountKey % 8)))

def probes (filterSize : Nat) (hash : Nat → UInt16) : List Nat :=
  (List.range 8).map fun pair =>
    hashValue (hash (2 * pair)) (hash (2 * pair + 1)) % (filterSize * 8)

/-- `fastPair_AdvHandleHashCfm` for the first of the data that wait. -/
def advHandleHashCfm (sha : Sha256) (state : State) (success : Bool) : Option State :=
  match state.hashing with
  | [] => some state
  | input :: hashing =>
    let answered := { state with hashing := hashing }
    match state.generating, success with
    | some generating, true => do
      let buffer ← (probes state.filterSize (sha input.reverse)).foldlM setBit generating
      let filtered := { answered with generating := some buffer }
      if state.numberOfKeysProcessed = state.accountKeys.length then
        return { filtered with ready := some buffer, accountKeys := [], shaHashLock := false }
      else
        match state.accountKeys[state.numberOfKeysProcessed]? with
        | none => return filtered
        | some key =>
          let temp := key.toList ++ state.temp.drop 16
          return { filtered with
            temp := temp
            hashing := hashing ++ [temp]
            numberOfKeysProcessed := state.numberOfKeysProcessed + 1 }
    | _, _ => some { answered with generating := none, accountKeys := [], shaHashLock := false }

inductive Event
  | generate (request : Request)
  | hashCfm (success : Bool)

def step (sha : Sha256) (state : State) : Event → Option State
  | .generate request => generateBloomFilter state request
  | .hashCfm success => advHandleHashCfm sha state success

/-- From the start; there is no state after a write outside of a buffer. -/
def run (sha : Sha256) (events : List Event) : Option State :=
  events.foldlM (step sha) State.init

section Covering

def isSet (filter : List UInt8) (bit : Nat) : Bool :=
  (filter.getD (bit / 8) 0).toNat.testBit (bit % 8)

def Request.input (request : Request) (key : Key) : List UInt8 :=
  key.toList ++ (request.saltOctets ++ request.battery)

def keyBits (sha : Sha256) (request : Request) (filterSize : Nat) (key : Key) : List Nat :=
  probes filterSize (sha (request.input key).reverse)

def dataOf (lengthType : UInt8) (salt filter : List UInt8) : List UInt8 :=
  0 :: lengthType :: (filter ++ 0x21 :: salt)

def Covers (sha : Sha256) (request : Request) (keys : List Key) (data : List UInt8) : Prop :=
  ∃ lengthType filter, data = dataOf lengthType request.saltOctets filter ∧
    lengthType.toNat / 16 = filter.length ∧
    ∀ key ∈ keys, ∀ bit ∈ keyBits sha request filter.length key, isSet filter bit = true

variable {request : Request} {lengthType : UInt8} {salt filter : List UInt8} {place numKeys : Nat}

theorem bitOctet_testBit (inside : place < 8) (bit : Nat) :
    (UInt8.ofNat (1 <<< place)).toNat.testBit bit = decide (place = bit) := by
  have small : 1 <<< place < 2 ^ 8 := by
    rw [Nat.one_shiftLeft]
    exact Nat.pow_lt_pow_right (by decide) inside
  rw [UInt8.toNat_ofNat', Nat.mod_eq_of_lt small, Nat.one_shiftLeft, Nat.testBit_two_pow]

theorem isSet_set (inside : place / 8 < filter.length) (bit : Nat) :
    isSet (filter.set (place / 8)
        (filter.getD (place / 8) 0 ||| UInt8.ofNat (1 <<< (place % 8)))) bit =
      (isSet filter bit || decide (place = bit)) := by
  rw [isSet, isSet, List.getD_eq_getElem?_getD, List.getElem?_set]
  by_cases same : place / 8 = bit / 8
  · rw [if_pos same, if_pos (same ▸ inside), Option.getD_some, same, UInt8.toNat_or,
      Nat.testBit_or, bitOctet_testBit (Nat.mod_lt _ (by decide))]
    congr 1
    exact decide_eq_decide.mpr (by omega)
  · rw [if_neg same, ← List.getD_eq_getElem?_getD,
      decide_eq_false (show ¬ place = bit from fun equal => same (by rw [equal])),
      Bool.or_false]

theorem setBit_dataOf (inside : place / 8 < filter.length) :
    setBit (dataOf lengthType salt filter) place =
      some (dataOf lengthType salt (filter.set (place / 8)
        (filter.getD (place / 8) 0 ||| UInt8.ofNat (1 <<< (place % 8))))) := by
  have index : 2 + place / 8 = place / 8 + 1 + 1 := by omega
  rw [setBit, dataOf, index, List.getElem?_cons_succ, List.getElem?_cons_succ,
    List.getElem?_append_left inside, List.getElem?_eq_getElem inside, Option.bind_eq_bind,
    Option.bind_some, write, if_pos (by simp; omega), List.set_cons_succ, List.set_cons_succ,
    List.set_append_left _ _ inside, List.getD_eq_getElem _ _ inside]
  rfl

theorem setBits_dataOf (lengthType : UInt8) (salt : List UInt8) {bits : List Nat}
    (inside : ∀ bit ∈ bits, bit / 8 < filter.length) :
    ∃ filter' : List UInt8, filter'.length = filter.length ∧
      bits.foldlM setBit (dataOf lengthType salt filter) = some (dataOf lengthType salt filter') ∧
      ∀ bit, isSet filter bit = true ∨ bit ∈ bits → isSet filter' bit = true := by
  induction bits generalizing filter with
  | nil => exact ⟨filter, rfl, rfl, by simp⟩
  | cons place bits ih =>
    obtain ⟨insideFirst, insideRest⟩ := List.forall_mem_cons.mp inside
    have insideSet : ∀ bit ∈ bits, bit / 8 < (filter.set (place / 8)
        (filter.getD (place / 8) 0 ||| UInt8.ofNat (1 <<< (place % 8)))).length := by
      rwa [List.length_set]
    obtain ⟨filter', length, done, kept⟩ := ih insideSet
    refine ⟨filter', length.trans List.length_set, ?_, fun bit known => kept bit ?_⟩
    · rw [List.foldlM_cons, setBit_dataOf insideFirst, Option.bind_eq_bind, Option.bind_some, done]
    · rw [isSet_set insideFirst, Bool.or_eq_true, decide_eq_true_eq]
      rcases known with known | known
      · exact .inl (.inl known)
      · rcases List.mem_cons.mp known with same | member
        · exact .inl (.inr same.symm)
        · exact .inr member

theorem probes_inside {filterSize : Nat} (positive : 0 < filterSize) (hash : Nat → UInt16) :
    ∀ bit ∈ probes filterSize hash, bit / 8 < filterSize := by
  intro bit member
  obtain ⟨pair, _, rfl⟩ := List.mem_map.mp member
  have := Nat.mod_lt (hashValue (hash (2 * pair)) (hash (2 * pair + 1)))
    (show 0 < filterSize * 8 by omega)
  omega

theorem length_markInUse (inUse : Key) (active : Bool) (keys : List Key) :
    (markInUse inUse active keys).length = keys.length := by
  induction keys with
  | nil => rfl
  | cons key keys ih =>
    rw [markInUse]
    split
    · rfl
    · rw [List.length_cons, ih, List.length_cons]

theorem length_keys_le (request : Request) : request.keys.length ≤ maxNumAccountKeys := by
  have stored : (getAccountKeys request.accounts).length ≤ maxNumAccountKeys := by
    rw [getAccountKeys, List.length_map]
    exact (List.length_filter_le _ _).trans (Nat.le_of_eq List.length_finRange)
  rw [Request.keys]
  split
  · rwa [length_markInUse]
  · exact stored

theorem layOut_request (request : Request) (positive : 0 < numKeys)
    (few : numKeys ≤ maxNumAccountKeys) :
    layOut (numKeys * 6 / 5 + 3 + 5) (numKeys * 6 / 5 + 3) request.saltOctets =
      some (dataOf (UInt8.ofNat (((numKeys * 6 / 5 + 3) <<< 4) &&& 0xF0)) request.saltOctets
        (List.replicate (numKeys * 6 / 5 + 3) 0)) := by
  rw [maxNumAccountKeys] at few
  interval_cases numKeys <;> rfl

theorem lengthType_value (few : numKeys ≤ maxNumAccountKeys) :
    (UInt8.ofNat (((numKeys * 6 / 5 + 3) <<< 4) &&& 0xF0)).toNat / 16 = numKeys * 6 / 5 + 3 := by
  rw [maxNumAccountKeys] at few
  interval_cases numKeys <;> rfl

end Covering

section Chains

variable {sha : Sha256} {request : Request} {state : State} {events : List Event}

def Chain (sha : Sha256) (request : Request) (state : State) : Prop :=
  ∃ before key after lengthType filter ready,
    state = ⟨some (dataOf lengthType request.saltOctets filter), ready, true,
      before ++ key :: after, filter.length, before.length + 1, request.input key,
      [request.input key]⟩ ∧
    request.keys = before ++ key :: after ∧ 0 < filter.length ∧
    lengthType.toNat / 16 = filter.length ∧
    ∀ key ∈ before, ∀ bit ∈ keyBits sha request filter.length key, isSet filter bit = true

structure Sound (sha : Sha256) (events : List Event) (state : State) : Prop where
  ready : ∀ data, state.ready = some data →
    ∃ request, .generate request ∈ events ∧ Covers sha request request.keys data
  free : state.shaHashLock = false → state.hashing = []
  locked : state.shaHashLock = true → ∃ request, .generate request ∈ events ∧
    Chain sha request state

theorem Sound.append (sound : Sound sha events state) (event : Event) :
    Sound sha (events ++ [event]) state := by
  refine ⟨fun data known => ?_, sound.free, fun lock => ?_⟩
  · obtain ⟨request, member, covers⟩ := sound.ready data known
    exact ⟨request, List.mem_append_left _ member, covers⟩
  · obtain ⟨request, member, chain⟩ := sound.locked lock
    exact ⟨request, List.mem_append_left _ member, chain⟩

theorem generate_sound (sound : Sound sha events state) (request : Request) :
    ∃ state', generateBloomFilter state request = some state' ∧
      Sound sha (events ++ [.generate request]) state' := by
  have ready := (sound.append (.generate request)).ready
  rw [generateBloomFilter]
  by_cases lock : state.shaHashLock = true
  · rw [if_pos lock]
    exact ⟨state, rfl, sound.append _⟩
  · have idle := sound.free (Bool.eq_false_iff.mpr lock)
    have few := length_keys_le request
    rw [if_neg lock]
    rcases keys : request.keys with _ | ⟨key, after⟩
    · exact ⟨_, rfl, ready, fun _ => idle, fun locked => absurd locked lock⟩
    · rw [keys] at few
      have positive : 0 < (key :: after).length := Nat.succ_pos _
      generalize count : (key :: after).length = numKeys at few positive
      have laid := layOut_request request positive few
      have value := lengthType_value few
      rw [maxNumAccountKeys] at few
      have small : numKeys % 256 = numKeys := Nat.mod_eq_of_lt (by omega)
      have size : (numKeys * 6 / 5 + 3) % 256 = numKeys * 6 / 5 + 3 := Nat.mod_eq_of_lt (by omega)
      have total : (numKeys * 6 / 5 + 3 + 5) % 256 = numKeys * 6 / 5 + 3 + 5 :=
        Nat.mod_eq_of_lt (by omega)
      simp only [small, size, total, if_neg (Nat.ne_of_gt positive)]
      rw [if_neg (by omega), laid]
      have length : (List.replicate (numKeys * 6 / 5 + 3) (0 : UInt8)).length =
          numKeys * 6 / 5 + 3 := List.length_replicate
      refine ⟨_, rfl, ready, fun free => absurd free.symm Bool.false_ne_true, fun _ =>
        ⟨request, List.mem_append_right _ (List.mem_singleton_self _), [], key, after, _,
          List.replicate (numKeys * 6 / 5 + 3) 0, state.ready, ?_, keys, ?_,
          value.trans length.symm,
          List.forall_mem_nil _⟩⟩
      · rw [length, idle]
        rfl
      · omega

theorem hashCfm_sound (sound : Sound sha events state) (success : Bool) :
    ∃ state', advHandleHashCfm sha state success = some state' ∧
      Sound sha (events ++ [.hashCfm success]) state' := by
  have later := sound.append (.hashCfm success)
  by_cases lock : state.shaHashLock = true
  · obtain ⟨request, member, before, key, after, lengthType, filter, ready, rfl, keys, positive,
      length, covered⟩ := later.locked lock
    cases success with
    | false => exact ⟨_, rfl, later.ready, fun _ => rfl,
      fun locked => absurd locked Bool.false_ne_true⟩
    | true =>
      obtain ⟨filter', same, done, kept⟩ := setBits_dataOf lengthType request.saltOctets
        (probes_inside positive (sha (request.input key).reverse))
      have coveredNow : ∀ key' ∈ before ++ [key],
          ∀ bit ∈ keyBits sha request filter'.length key', isSet filter' bit = true := by
        intro key' member bit isBit
        rw [same] at isBit
        rcases List.mem_append.mp member with old | now
        · exact kept bit (.inl (covered key' old bit isBit))
        · cases List.mem_singleton.mp now
          exact kept bit (.inr isBit)
      simp only [advHandleHashCfm, done, Option.bind_eq_bind, Option.bind_some]
      cases after with
      | nil =>
        rw [if_pos (by simp)]
        refine ⟨_, rfl, fun data marked => ?_, fun _ => rfl,
          fun locked => absurd locked Bool.false_ne_true⟩
        cases marked
        exact ⟨request, member, lengthType, filter', rfl, length.trans same.symm, keys ▸ coveredNow⟩
      | cons next after =>
        have following : (before ++ key :: next :: after)[before.length + 1]? = some next := by
          simp
        rw [if_neg (by simp), following]
        refine ⟨_, rfl, later.ready, fun free => absurd free.symm Bool.false_ne_true,
          fun _ => ⟨request, member, before ++ [key], next,
          after, lengthType, filter', ready, ?_, by simp [keys], same ▸ positive,
          length.trans same.symm, coveredNow⟩⟩
        simp [same, Request.input]
  · refine ⟨state, ?_, later⟩
    rw [advHandleHashCfm, sound.free (Bool.eq_false_iff.mpr lock)]

theorem run_sound (sha : Sha256) (events : List Event) :
    ∃ state, run sha events = some state ∧ Sound sha events state := by
  induction events using List.reverseRecOn with
  | nil =>
    refine ⟨State.init, rfl, fun data marked => ?_, fun _ => rfl, fun locked => ?_⟩
    · cases marked
    · cases locked
  | append_singleton events event ih =>
    obtain ⟨state, reached, sound⟩ := ih
    have next : run sha (events ++ [event]) = step sha state event := by
      rw [run] at reached
      rw [run, List.foldlM_append, reached, Option.bind_eq_bind, Option.bind_some, List.foldlM_cons]
      cases step sha state event <;> rfl
    rw [next]
    cases event with
    | generate request => exact generate_sound sound request
    | hashCfm success => exact hashCfm_sound sound success

/-- No write is outside of a buffer, and data that are ready cover every key that a request to
generate found, with the salt and the battery data of that request. -/
theorem ready_covers (sha : Sha256) (events : List Event) :
    ∃ state, run sha events = some state ∧ ∀ data, state.ready = some data →
      ∃ request, .generate request ∈ events ∧ Covers sha request request.keys data := by
  obtain ⟨state, reached, sound⟩ := run_sound sha events
  exact ⟨state, reached, sound.ready⟩

def inUseRequest : Request :=
  ⟨fun count => ⟨Vector.replicate 16 4, if count.val = 0 then 1 else 0, true⟩,
    some (Vector.replicate 16 4, true), 0, []⟩

/-- The key as it is stored need not have its bits. -/
theorem storedKey_notCovered :
    ¬ ∀ (sha : Sha256) (events : List Event) (state : State) (data : List UInt8),
      run sha events = some state → state.ready = some data →
        ∃ request, .generate request ∈ events ∧
          Covers sha request (getAccountKeys request.accounts) data := by
  intro claim
  let sha : Sha256 := fun input _ => if 6 ∈ input then 0 else 0x0100
  let events := [Event.generate inUseRequest, .hashCfm true]
  have marked : (run sha events).bind State.ready = some [0, 0x40, 1, 0, 0, 0, 0x21, 0, 0] := by
    decide
  obtain ⟨state, reached, ready⟩ := Option.bind_eq_some_iff.mp marked
  obtain ⟨request, member, lengthType, filter, same, length, covered⟩ :=
    claim sha events state _ reached ready
  have asked : request = inUseRequest := by
    rcases List.mem_cons.mp member with first | second
    · cases first
      rfl
    · cases List.mem_singleton.mp second
  subst asked
  rw [show inUseRequest.saltOctets = [0, 0] by decide] at same
  have tail : filter ++ [0x21, 0, 0] = [1, 0, 0, 0] ++ [0x21, 0, 0] :=
    (List.cons.inj (List.cons.inj same).2).2.symm
  cases List.append_cancel_right tail
  have bit := covered (Vector.replicate 16 4) (by decide) 1 (by decide)
  exact absurd bit (by decide)

end Chains

end BloomFilter

end HeadsetAdk.FastPair
