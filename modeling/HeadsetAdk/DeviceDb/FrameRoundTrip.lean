import HeadsetAdk.DeviceDb.Serialiser
import Mathlib.Data.List.Induction
import Mathlib.Data.List.Perm.Subperm

/-! # What a stored frame gives back -/

namespace HeadsetAdk.DeviceDb

open List (length_append mem_cons_of_mem length_cons flatMap_cons mem_cons_self map_cons
  append_assoc)
open UInt8 (toNat_ofNat' toNat_add)
open Option (bind_some)

variable {Device Addr : Type}

def registerAll (users : List (Pddu Device)) : Registry Device :=
  users.foldl Registry.registerPersistentDeviceDataUser Registry.pdduInit

def withData (users : List (Pddu Device)) (device : Device) : List (Pddu Device) :=
  users.filter fun user => user.getLen device ≠ 0

def record (device : Device) (user : Pddu Device) : List UInt8 :=
  UInt8.ofNat user.id :: (user.getLen device + sizeOfTypeAndLen) :: user.ser device

def records (users : List (Pddu Device)) (device : Device) : List UInt8 :=
  (withData users device).flatMap (record device)

/-- The bytes that the frame has to hold. -/
def payloadLength (users : List (Pddu Device)) (device : Device) : Nat :=
  (withData users device).foldr (fun user length => (user.getLen device).toNat + 2 + length) 0

def WritesLength (users : List (Pddu Device)) (device : Device) : Prop :=
  ∀ user ∈ users, (user.ser device).length = (user.getLen device).toNat

/-- What the `deser` functions are given: the user, its data and their length. -/
def DeserCall.given (call : DeserCall Device) : Pddu Device × List UInt8 × UInt8 :=
  (call.pddu, call.buf.take call.dataLength.toNat, call.dataLength)

/-- The data that are given back to the users that are registered when the frame is read. -/
def delivered (users loaded : List (Pddu Device)) (device : Device) :
    List (Pddu Device × List UInt8 × UInt8) :=
  (withData users device).filterMap fun user =>
    (loaded.find? fun pddu => pddu.id = user.id).map fun pddu =>
      (pddu, user.ser device, user.getLen device)

section Registration

variable {users : List (Pddu Device)}

theorem registerAll_concat (users : List (Pddu Device)) (user : Pddu Device) :
    registerAll (users ++ [user]) = (registerAll users).registerPersistentDeviceDataUser user := by
  rw [registerAll, List.foldl_append]
  rfl

theorem registerAll_spec (few : users.length ≤ 256) :
    registerAll users = ⟨users, UInt8.ofNat users.length⟩ := by
  induction users using List.reverseRecOn with
  | nil => rfl
  | append_singleton users user ih =>
    rw [length_append, List.length_singleton] at few
    have kept : (UInt8.ofNat users.length).toNat = users.length := by
      rw [toNat_ofNat']
      omega
    rw [registerAll_concat, ih (by omega), Registry.registerPersistentDeviceDataUser]
    simp only [kept, List.take_length, length_append, List.length_singleton, UInt8.ofNat_add]
    rfl

theorem registerAll_registered (few : users.length < 256) :
    (registerAll users).registered = users ∧
      ((registerAll users).numRegisteredPddus = 0 ↔ users = []) := by
  rw [registerAll_spec (Nat.le_of_lt few), Registry.registered]
  have kept : (UInt8.ofNat users.length).toNat = users.length := by
    rw [toNat_ofNat']
    omega
  refine ⟨by rw [kept, List.take_length], ?_⟩
  rw [← UInt8.toNat_inj, kept]
  exact List.length_eq_zero_iff

theorem registerAll_full (full : users.length = 256) :
    (registerAll users).registered = [] ∧ (registerAll users).numRegisteredPddus = 0 := by
  rw [registerAll_spec (by omega), Registry.registered, full]
  exact ⟨rfl, rfl⟩

theorem length_le_256 (distinct : (users.map Pddu.id).Nodup)
    (bytes : ∀ user ∈ users, user.id < 256) : users.length ≤ 256 := by
  have subset : users.map Pddu.id ⊆ List.range 256 := by
    intro id member
    obtain ⟨user, inUsers, rfl⟩ := List.mem_map.mp member
    exact List.mem_range.mpr (bytes user inUsers)
  have bound := (List.subperm_of_subset distinct subset).length_le
  rwa [List.length_map, List.length_range] at bound

end Registration

section Writing

variable {users : List (Pddu Device)} {device : Device} {user : Pddu Device}

theorem withData_cons_of_ne (some : user.getLen device ≠ 0) :
    withData (user :: users) device = user :: withData users device :=
  List.filter_cons_of_pos (decide_eq_true some)

theorem withData_cons_of_eq (none : user.getLen device = 0) :
    withData (user :: users) device = withData users device :=
  List.filter_cons_of_neg (by simp [none])

theorem WritesLength.tail (writes : WritesLength (user :: users) device) :
    WritesLength users device :=
  fun other member => writes other (mem_cons_of_mem _ member)

theorem length_record (writes : (user.ser device).length = (user.getLen device).toNat) :
    (record device user).length = (user.getLen device).toNat + 2 := by
  rw [record, length_cons, length_cons, writes]

theorem payloadLength_cons (some : user.getLen device ≠ 0) :
    payloadLength (user :: users) device =
      (user.getLen device).toNat + 2 + payloadLength users device := by
  rw [payloadLength, withData_cons_of_ne some, List.foldr_cons]
  rfl

theorem length_records (writes : WritesLength users device) :
    (records users device).length = payloadLength users device := by
  induction users with
  | nil => rfl
  | cons user users ih =>
    by_cases some : user.getLen device ≠ 0
    · rw [payloadLength_cons some, ← ih writes.tail, records, withData_cons_of_ne some,
        flatMap_cons, length_append, length_record (writes user mem_cons_self)]
      rfl
    · have none : user.getLen device = 0 := not_not.mp some
      rw [payloadLength, records, withData_cons_of_eq none]
      exact ih writes.tail

theorem le_payloadLength (member : user ∈ withData users device) :
    (user.getLen device).toNat + 2 ≤ payloadLength users device := by
  induction users with
  | nil => exact absurd member List.not_mem_nil
  | cons other users ih =>
    by_cases some : other.getLen device ≠ 0
    · rw [withData_cons_of_ne some] at member
      rw [payloadLength_cons some]
      rcases List.mem_cons.mp member with rfl | inRest
      · exact Nat.le_add_right _ _
      · exact Nat.le_trans (ih inRest) (Nat.le_add_left _ _)
    · have none : other.getLen device = 0 := not_not.mp some
      rw [payloadLength]
      rw [withData_cons_of_eq none] at member ⊢
      exact ih member

theorem length_le_payloadLength (users : List (Pddu Device)) (device : Device) :
    3 * (withData users device).length ≤ payloadLength users device := by
  induction users with
  | nil => exact Nat.le_refl 0
  | cons user users ih =>
    by_cases some : user.getLen device ≠ 0
    · have positive : (user.getLen device).toNat ≠ 0 := fun zero =>
        some (UInt8.toNat_inj.mp zero)
      rw [payloadLength_cons some, withData_cons_of_ne some, length_cons]
      omega
    · have none : user.getLen device = 0 := not_not.mp some
      rw [payloadLength, withData_cons_of_eq none]
      exact ih

theorem toNat_payloadLen (short : (user.getLen device).toNat ≤ 251) :
    (user.getLen device + sizeOfTypeAndLen).toNat = (user.getLen device).toNat + 2 := by
  rw [toNat_add]
  exact Nat.mod_eq_of_lt (by change _ + 2 < 256; omega)

theorem add_toNat_mod (sum : UInt8) (user : Pddu Device) :
    (sum + (user.getLen device + sizeOfTypeAndLen)).toNat % 256 =
      (sum.toNat + ((user.getLen device).toNat + 2)) % 256 := by
  rw [toNat_add, toNat_add, Nat.mod_mod, Nat.add_mod_mod]
  rfl

theorem sumAllPdduPayloads_toNat (sum : UInt8) :
    ((users.map fun user =>
        if user.getLen device ≠ 0 then user.getLen device + sizeOfTypeAndLen
        else user.getLen device).foldl (fun sum length => sum + length) sum).toNat =
      (sum.toNat + payloadLength users device) % 256 := by
  induction users generalizing sum with
  | nil => exact (Nat.mod_eq_of_lt sum.toNat_lt).symm
  | cons user users ih =>
    rw [map_cons, List.foldl_cons, ih]
    by_cases some : user.getLen device ≠ 0
    · rw [if_pos some, payloadLength_cons some, Nat.add_mod, add_toNat_mod, ← Nat.add_mod,
        Nat.add_assoc]
    · have none : user.getLen device = 0 := not_not.mp some
      rw [if_neg some, none, UInt8.add_zero, payloadLength, payloadLength, withData_cons_of_eq none]

theorem writeBytes_append {before bytes after : List UInt8} {offset : Nat}
    (here : before.length = offset) (room : bytes.length ≤ after.length) :
    writeBytes (before ++ after) offset bytes =
      some (before ++ bytes ++ after.drop bytes.length) := by
  subst here
  rw [writeBytes, if_pos (by rw [length_append]; omega), List.take_left,
    List.drop_append, List.drop_eq_nil_of_le (Nat.le_add_right _ _), Nat.add_sub_cancel_left,
    List.nil_append, append_assoc]

theorem populateLoop_records (writes : WritesLength users device) (before after : List UInt8)
    (offset : UInt8) (here : before.length = payloadOffsetInFrame + offset.toNat)
    (fits : offset.toNat + payloadLength users device ≤ 253)
    (room : payloadLength users device ≤ after.length) :
    populateLoop device (before ++ after) offset
      (users.zip (users.map fun user =>
        if user.getLen device ≠ 0 then user.getLen device + sizeOfTypeAndLen
        else user.getLen device)) =
      some (before ++ records users device ++ after.drop (payloadLength users device)) := by
  induction users generalizing before after offset with
  | nil => exact congrArg some (by rw [append_assoc]; rfl)
  | cons user users ih =>
    rw [map_cons, List.zip_cons_cons, populateLoop]
    by_cases some : user.getLen device ≠ 0
    · rw [payloadLength_cons some] at fits room ⊢
      have length : (record device user).length = (user.getLen device).toNat + 2 :=
        length_record (writes user mem_cons_self)
      have short : (user.getLen device).toNat ≤ 251 := by omega
      have payloadLen := toNat_payloadLen short
      have nonzero : user.getLen device + sizeOfTypeAndLen ≠ 0 := by
        intro zero
        rw [zero] at payloadLen
        exact absurd payloadLen.symm (Nat.succ_ne_zero _)
      have added : (offset + (user.getLen device + sizeOfTypeAndLen)).toNat =
          offset.toNat + ((user.getLen device).toNat + 2) := by
        rw [toNat_add, payloadLen]
        exact Nat.mod_eq_of_lt (by omega)
      rw [if_pos some, if_pos nonzero, addPdduData, ← record,
        writeBytes_append here (by omega), bind_some,
        ih writes.tail _ _ _ (by rw [length_append, length, added, here]; omega)
          (by omega) (by rw [List.length_drop]; omega),
        records, records, withData_cons_of_ne some, flatMap_cons, List.drop_drop, length,
        ← append_assoc]
    · have none : user.getLen device = 0 := not_not.mp some
      rw [payloadLength, withData_cons_of_eq none] at fits room ⊢
      rw [if_neg some, none, if_neg (fun differ => differ rfl), records, withData_cons_of_eq none]
      exact ih writes.tail _ _ _ here fits room

end Writing

section Reading

variable {users : List (Pddu Device)} {device : Device} {registry : Registry Device}

def givenBy (registry : Registry Device) (device : Device) (users : List (Pddu Device)) :
    List (Pddu Device × List UInt8 × UInt8) :=
  users.filterMap fun user => (registry.getRegisteredPddu (UInt8.ofNat user.id)).map fun pddu =>
    (pddu, user.ser device, user.getLen device)

theorem given_record {user : Pddu Device} {before after : List UInt8}
    (writes : (user.ser device).length = (user.getLen device).toNat)
    (short : (user.getLen device).toNat ≤ 251) (pddu : Pddu Device) :
    DeserCall.given
      { pddu := pddu
        buf := (before ++ (record device user ++ after)).drop (before.length + payloadOffsetInFrame)
        dataLength :=
          if user.getLen device + sizeOfTypeAndLen < sizeOfMetadata then 0
          else user.getLen device + sizeOfTypeAndLen - sizeOfMetadata } =
      (pddu, user.ser device, user.getLen device) := by
  have length : (if user.getLen device + sizeOfTypeAndLen < sizeOfMetadata then 0
      else user.getLen device + sizeOfTypeAndLen - sizeOfMetadata) = user.getLen device := by
    rw [if_neg]
    · exact UInt8.add_sub_cancel _ _
    · rw [UInt8.lt_iff_toNat_lt, toNat_payloadLen short]
      change ¬ _ < 2
      omega
  rw [DeserCall.given, length]
  dsimp only
  rw [← List.drop_drop, List.drop_left, ← writes]
  change (_, ((user.ser device) ++ after).take _, _) = _
  rw [List.take_left]

theorem deserialiseLoop_records (some : ∀ user ∈ users, user.getLen device ≠ 0)
    (writes : WritesLength users device) (short : ∀ user ∈ users, (user.getLen device).toNat ≤ 251)
    (before after : List UInt8) {rounds endOfPddFrame : Nat} (enough : users.length < rounds)
    (ends : endOfPddFrame = before.length + (users.flatMap (record device)).length) :
    ∃ calls, deserialiseLoop registry (before ++ (users.flatMap (record device) ++ after))
        endOfPddFrame rounds before.length = Option.some calls ∧
      calls.map DeserCall.given = givenBy registry device users := by
  induction users generalizing before rounds with
  | nil =>
    cases rounds with
    | zero => exact absurd enough (Nat.not_lt_zero _)
    | succ rounds =>
      refine ⟨[], ?_, rfl⟩
      rw [deserialiseLoop, if_neg (by rw [ends]; exact Nat.lt_irrefl _)]
  | cons user users ih =>
    cases rounds with
    | zero => exact absurd enough (Nat.not_lt_zero _)
    | succ rounds =>
      have shortHere := short user mem_cons_self
      have writesHere := writes user mem_cons_self
      have length : (record device user).length = (user.getLen device).toNat + 2 :=
        length_record writesHere
      rw [flatMap_cons, length_append, length] at ends
      obtain ⟨calls, ran, given⟩ := ih
        (fun other member => some other (mem_cons_of_mem _ member)) writes.tail
        (fun other member => short other (mem_cons_of_mem _ member))
        (before ++ record device user)
        (Nat.lt_of_succ_lt_succ enough) (by rw [length_append, length, ends]; omega)
      have id : (before ++ (record device user ++ (users.flatMap (record device) ++ after)))[
          before.length]? = Option.some (UInt8.ofNat user.id) := by
        rw [List.getElem?_append_right (Nat.le_refl _), Nat.sub_self]
        rfl
      have len : (before ++ (record device user ++ (users.flatMap (record device) ++ after)))[
          before.length + 1]? = Option.some (user.getLen device + sizeOfTypeAndLen) := by
        rw [List.getElem?_append_right (Nat.le_add_right _ 1), Nat.add_sub_cancel_left]
        rfl
      rw [length_append, length, append_assoc] at ran
      rw [flatMap_cons, append_assoc, deserialiseLoop, if_pos (by omega), id, len]
      simp only [Option.bind_eq_bind, bind_some, toNat_payloadLen shortHere, ran]
      rw [givenBy, List.filterMap_cons]
      cases found : registry.getRegisteredPddu (UInt8.ofNat user.id) with
      | none => exact ⟨calls, rfl, given⟩
      | some pddu =>
        refine ⟨_, rfl, ?_⟩
        rw [map_cons, given_record writesHere shortHere pddu, given]
        rfl

theorem deserialisePddFrame_records (registry : Registry Device)
    (writes : WritesLength users device)
    (fits : payloadLength users device ≤ 253) (padding : List UInt8) :
    ∃ calls, deserialisePddFrame registry
        (dbsPddFrameType :: UInt8.ofNat (payloadLength users device + 2) ::
          (records users device ++ padding)) = some calls ∧
      calls.map DeserCall.given = givenBy registry device (withData users device) := by
  have some : ∀ user ∈ withData users device, user.getLen device ≠ 0 := fun user member =>
    of_decide_eq_true (List.mem_filter.mp member).2
  have writes' : WritesLength (withData users device) device := fun user member =>
    writes user (List.mem_filter.mp member).1
  have short : ∀ user ∈ withData users device, (user.getLen device).toNat ≤ 251 := by
    intro user member
    have part := le_payloadLength member
    omega
  have count := length_le_payloadLength users device
  have size : (UInt8.ofNat (payloadLength users device + 2)).toNat =
      payloadLength users device + 2 := by
    rw [toNat_ofNat']
    omega
  rw [deserialisePddFrame, List.getElem?_cons_succ, List.getElem?_cons_zero, bind_some, size]
  refine deserialiseLoop_records some writes' short
    [dbsPddFrameType, UInt8.ofNat (payloadLength users device + 2)] padding (by omega) ?_
  rw [← records, length_records writes]
  exact Nat.add_comm _ _

end Reading

section Storing

variable [DecidableEq Addr] {users loaded : List (Pddu Device)} {device : Device}
  {bdaddr : Device → Option Addr} {attributes : Attributes Addr} {addr : Addr}

theorem createPddFrame_eq (totalLen : Nat) :
    createPddFrame totalLen = dbsPddFrameType :: UInt8.ofNat (totalLen + 2) ::
      List.replicate (psSizeAdj (totalLen + 2) * 2 - 2) 0 := by
  have size : psSizeAdj (totalLen + 2) * 2 = psSizeAdj (totalLen + 2) * 2 - 2 + 1 + 1 := by
    rw [psSizeAdj]
    omega
  rw [createPddFrame]
  change ((List.replicate (psSizeAdj (totalLen + 2) * 2) 0).set 0 _).set 1 _ = _
  rw [size, List.replicate_succ, List.replicate_succ]
  rfl

theorem withData_eq_nil (nothing : payloadLength users device = 0) :
    withData users device = [] := by
  have count := length_le_payloadLength users device
  exact List.length_eq_zero_iff.mp (by omega)

theorem sum_registered (registry : Registry Device) (device : Device) :
    (sumAllPdduPayloads (registry.getAllPddusPayloadLengths device)).toNat =
      payloadLength registry.registered device % 256 := by
  rw [Registry.getAllPddusPayloadLengths, sumAllPdduPayloads, sumAllPdduPayloads_toNat 0,
    UInt8.toNat_zero, Nat.zero_add]

theorem counted_of_registered {registry : Registry Device}
    (some : payloadLength registry.registered device ≠ 0) : registry.numRegisteredPddus ≠ 0 := by
  intro zero
  rw [Registry.registered, zero] at some
  exact some rfl

/-- Where there is data for the device, the frame is the records and at most one byte more. -/
theorem serialiseDevice_puts {registry : Registry Device}
    (writes : WritesLength registry.registered device)
    (fits : payloadLength registry.registered device ≤ 253)
    (some : payloadLength registry.registered device ≠ 0)
    (known : bdaddr device = Option.some addr) :
    ∃ attributes' padding frame,
      frame = dbsPddFrameType :: UInt8.ofNat (payloadLength registry.registered device + 2) ::
        (records registry.registered device ++ padding) ∧
      frame.length = psSizeAdj (payloadLength registry.registered device + 2) * 2 ∧
      putAttribute attributes addr (payloadLength registry.registered device + 2) frame =
        Option.some attributes' ∧
      serialiseDevice registry bdaddr attributes device = Option.some (true, attributes') := by
  have sum := sum_registered registry device
  rw [Nat.mod_eq_of_lt (by omega)] at sum
  have nonzero : sumAllPdduPayloads (registry.getAllPddusPayloadLengths device) ≠ 0 := by
    intro zero
    rw [zero] at sum
    exact some sum.symm
  have counted := counted_of_registered some
  obtain ⟨users, isUsers⟩ : ∃ users, registry.registered = users := ⟨_, rfl⟩
  rw [isUsers] at writes fits sum ⊢
  have populated := populateLoop_records writes
    [dbsPddFrameType, UInt8.ofNat (payloadLength users device + 2)]
    (List.replicate (psSizeAdj (payloadLength users device + 2) * 2 - 2) 0) 0 rfl
    (by rw [UInt8.toNat_zero]; omega) (by rw [List.length_replicate, psSizeAdj]; omega)
  obtain ⟨padding, isPadding⟩ : ∃ padding, List.drop (payloadLength users device)
      (List.replicate (psSizeAdj (payloadLength users device + 2) * 2 - 2) (0 : UInt8)) = padding :=
    ⟨_, rfl⟩
  rw [isPadding] at populated
  have length : padding.length = psSizeAdj (payloadLength users device + 2) * 2 - 2 -
      payloadLength users device := by
    rw [← isPadding, List.length_drop, List.length_replicate]
  have size : (UInt8.ofNat (payloadLength users device + 2)).toNat =
      payloadLength users device + 2 := by
    rw [toNat_ofNat']
    omega
  have whole : (dbsPddFrameType :: UInt8.ofNat (payloadLength users device + 2) ::
      (records users device ++ padding)).length =
        psSizeAdj (payloadLength users device + 2) * 2 := by
    rw [length_cons, length_cons, length_append, length_records writes, length, psSizeAdj]
    omega
  obtain ⟨attributes', stored⟩ : ∃ attributes', putAttribute attributes addr
      (payloadLength users device + 2) (dbsPddFrameType ::
        UInt8.ofNat (payloadLength users device + 2) :: (records users device ++ padding)) =
      Option.some attributes' := by
    rw [putAttribute]
    cases attributes addr with
    | none => exact ⟨attributes, rfl⟩
    | some old => exact ⟨_, if_pos (Nat.le_of_eq whole.symm)⟩
  refine ⟨attributes', padding, _, rfl, whole, stored, ?_⟩
  rw [serialiseDevice, if_neg counted, known]
  dsimp only
  rw [if_pos nonzero, sum, createPddFrame_eq, populatePddFrame, Registry.getAllPddusPayloadLengths,
    isUsers]
  change (populateLoop device ([_, _] ++ _) 0 _).bind _ = _
  rw [populated, bind_some]
  change (putAttribute attributes addr (UInt8.ofNat (payloadLength users device + 2)).toNat
    (dbsPddFrameType :: UInt8.ofNat (payloadLength users device + 2) ::
      (records users device ++ padding))).bind _ = _
  rw [size, stored]
  rfl

theorem serialiseDevice_stores (few : users.length < 256) (writes : WritesLength users device)
    (fits : payloadLength users device ≤ 253) (some : payloadLength users device ≠ 0)
    (known : bdaddr device = Option.some addr) (trusted : (attributes addr).isSome = true) :
    ∃ attributes' padding, serialiseDevice (registerAll users) bdaddr attributes device =
        Option.some (true, attributes') ∧
      attributes' addr = Option.some (dbsPddFrameType ::
        UInt8.ofNat (payloadLength users device + 2) :: (records users device ++ padding)) := by
  have registered := (registerAll_registered few).1
  rw [← registered] at writes fits some
  obtain ⟨attributes', padding, frame, isFrame, whole, stored, serialised⟩ :=
    @serialiseDevice_puts _ _ _ _ _ attributes _ _ writes fits some known
  rw [registered] at isFrame whole stored
  obtain ⟨old, isOld⟩ := Option.isSome_iff_exists.mp trusted
  rw [putAttribute, isOld] at stored
  dsimp only at stored
  rw [if_pos (Nat.le_of_eq whole.symm), List.take_of_length_le (Nat.le_of_eq whole)] at stored
  obtain rfl := Option.some.inj stored
  refine ⟨_, padding, serialised, ?_⟩
  rw [Function.update_self, isFrame]

theorem serialiseDevice_stores_nothing
    (nothing : users.length = 256 ∨ users.length < 256 ∧ payloadLength users device = 0)
    (known : bdaddr device = some addr) :
    serialiseDevice (registerAll users) bdaddr attributes device = some (false, attributes) := by
  rw [serialiseDevice]
  rcases nothing with full | ⟨few, empty⟩
  · rw [if_pos (registerAll_full full).2]
  · by_cases counted : (registerAll users).numRegisteredPddus = 0
    · rw [if_pos counted]
    · have sum := sum_registered (registerAll users) device
      rw [(registerAll_registered few).1, empty] at sum
      rw [if_neg counted, known]
      dsimp only
      rw [if_neg (not_not.mpr (UInt8.toNat_inj.mp sum))]

def roundTrip (users loaded : List (Pddu Device)) (bdaddr : Device → Option Addr)
    (attributes : Attributes Addr) (device : Device) (addr : Addr) :
    Option (List (DeserCall Device)) :=
  (serialiseDevice (registerAll users) bdaddr attributes device).bind fun (stored, attributes) =>
    if stored = true then
      checkAttributesAndDeserialiseDevice (registerAll loaded) attributes addr
    else some []

theorem givenBy_registerAll (few : loaded.length < 256) (bytes : ∀ user ∈ users, user.id < 256) :
    givenBy (registerAll loaded) device (withData users device) =
      delivered users loaded device := by
  rw [givenBy, delivered]
  refine List.filterMap_congr fun user member => ?_
  have id : (UInt8.ofNat user.id).toNat = user.id := by
    rw [toNat_ofNat']
    exact Nat.mod_eq_of_lt (bytes user (List.mem_filter.mp member).1)
  rw [Registry.getRegisteredPddu, (registerAll_registered few).1, id]

theorem givenBy_nobody (full : loaded.length = 256) :
    givenBy (registerAll loaded) device users = [] := by
  rw [givenBy, List.filterMap_eq_nil_iff]
  intro user _
  rw [Registry.getRegisteredPddu, (registerAll_full full).1]
  rfl

theorem delivered_self (distinct : (users.map Pddu.id).Nodup) :
    delivered users users device = (withData users device).map fun user =>
      (user, user.ser device, user.getLen device) := by
  have found (user : Pddu Device) (member : user ∈ users) :
      users.find? (fun pddu => pddu.id = user.id) = some user := by
    induction users with
    | nil => exact absurd member List.not_mem_nil
    | cons head users ih =>
      rw [map_cons, List.nodup_cons] at distinct
      rcases List.mem_cons.mp member with rfl | inRest
      · exact List.find?_cons_of_pos (decide_eq_true rfl)
      · have differ : head.id ≠ user.id := fun same =>
          distinct.1 (List.mem_map.mpr ⟨user, inRest, same.symm⟩)
        rw [List.find?_cons_of_neg (by rw [decide_eq_true_iff]; exact differ)]
        exact ih distinct.2 inRest
  rw [delivered, ← List.filterMap_eq_map]
  refine List.filterMap_congr fun user member => ?_
  rw [found user (List.mem_filter.mp member).1]
  rfl

/-- A frame gives their data back to the users that are registered when it is read, if and
only if there were fewer than 256 users both times, or there is nothing to give back. -/
theorem roundTrip_delivers (distinct : (users.map Pddu.id).Nodup)
    (bytes : ∀ user ∈ users, user.id < 256) (distinct' : (loaded.map Pddu.id).Nodup)
    (bytes' : ∀ user ∈ loaded, user.id < 256) (writes : WritesLength users device)
    (fits : payloadLength users device ≤ 253) (known : bdaddr device = some addr)
    (trusted : (attributes addr).isSome = true) :
    ((∃ calls, roundTrip users loaded bdaddr attributes device addr = some calls ∧
        calls.map DeserCall.given = delivered users loaded device) ↔
      delivered users loaded device = [] ∨ users.length < 256 ∧ loaded.length < 256) ∧
    delivered users users device = (withData users device).map fun user =>
      (user, user.ser device, user.getLen device) := by
  refine ⟨?_, delivered_self distinct⟩
  have bound := length_le_256 distinct bytes
  have bound' := length_le_256 distinct' bytes'
  by_cases nothing : users.length = 256 ∨ users.length < 256 ∧ payloadLength users device = 0
  · have ran : roundTrip users loaded bdaddr attributes device addr = some [] := by
      rw [roundTrip, serialiseDevice_stores_nothing nothing known]
      rfl
    rw [ran]
    constructor
    · rintro ⟨calls, same, given⟩
      cases same
      exact Or.inl given.symm
    · intro condition
      refine ⟨[], rfl, ?_⟩
      rcases condition with empty | ⟨few, _⟩
      · exact empty.symm
      · have zero : payloadLength users device = 0 := by
          rcases nothing with full | ⟨_, zero⟩
          · omega
          · exact zero
        rw [delivered, withData_eq_nil zero]
        rfl
  · have few : users.length < 256 := by omega
    obtain ⟨attributes', padding, stored, held⟩ :=
      serialiseDevice_stores few writes fits (by omega) known trusted
    obtain ⟨calls, read, given⟩ :=
      deserialisePddFrame_records (registerAll loaded) writes fits padding
    have ran : roundTrip users loaded bdaddr attributes device addr = some calls := by
      rw [roundTrip, stored, bind_some]
      dsimp only
      rw [if_pos rfl, checkAttributesAndDeserialiseDevice, held]
      dsimp only
      rw [if_pos rfl, read]
    rw [ran]
    by_cases few' : loaded.length < 256
    · rw [givenBy_registerAll few' bytes] at given
      exact ⟨fun _ => Or.inr ⟨few, few'⟩, fun _ => ⟨calls, rfl, given⟩⟩
    · rw [givenBy_nobody (by omega)] at given
      constructor
      · rintro ⟨calls', same, given'⟩
        cases same
        exact Or.inl (given'.symm.trans given)
      · rintro (empty | ⟨_, few''⟩)
        · exact ⟨calls, rfl, given.trans empty.symm⟩
        · exact absurd few'' few'

private def twoBytes : Pddu Unit := ⟨3, fun _ => 2, fun _ => [7, 8]⟩

private def oneByte : Pddu Unit := ⟨9, fun _ => 1, fun _ => [5]⟩

theorem roundTrip_delivers_unregistered :
    ∃ calls, roundTrip [oneByte, twoBytes] [twoBytes] (fun _ => some ()) (fun _ => some []) ()
        () = some calls ∧ calls.map DeserCall.given = [(twoBytes, [7, 8], 2)] := by
  have writes : WritesLength [oneByte, twoBytes] () := by
    intro user member
    rcases List.mem_cons.mp member with rfl | member
    · rfl
    · rw [List.mem_singleton.mp member]
      rfl
  have bytes : ∀ user ∈ [oneByte, twoBytes], user.id < 256 := by
    intro user member
    rcases List.mem_cons.mp member with rfl | member
    · decide
    · rw [List.mem_singleton.mp member]
      decide
  have delivers := (@roundTrip_delivers Unit Unit _ [oneByte, twoBytes] [twoBytes] ()
    (fun _ => some ()) (fun _ => some []) () (by decide) bytes (by decide)
    (fun user member => bytes user (mem_cons_of_mem _ member)) writes (by decide) rfl rfl).1
  exact delivers.mpr (Or.inr ⟨by decide, by decide⟩)

/-- A user for every byte; the last of them has data. -/
private def allUsers : List (Pddu Unit) :=
  (List.range 255).map (fun id => ⟨id, fun _ => 0, fun _ => []⟩) ++
    [⟨255, fun _ => 1, fun _ => [5]⟩]

/-- With 256 users nothing is stored. -/
theorem all_users_store_nothing :
    ¬ ∀ users : List (Pddu Unit), (users.map Pddu.id).Nodup → (∀ user ∈ users, user.id < 256) →
      WritesLength users () → payloadLength users () ≤ 253 →
      ∃ calls, roundTrip users users (fun _ => some ()) (fun _ => some []) () () = some calls ∧
        calls.map DeserCall.given = delivered users users () := by
  intro delivers
  have ids : allUsers.map Pddu.id = List.range 256 := by
    have silent : Pddu.id ∘ (fun id => (⟨id, fun _ => 0, fun _ => []⟩ : Pddu Unit)) = id := rfl
    rw [allUsers, List.map_append, List.map_map, silent, List.map_id, List.map_singleton]
    exact List.range_succ.symm
  have distinct : (allUsers.map Pddu.id).Nodup := by
    rw [ids]
    exact List.nodup_range
  have full : allUsers.length = 256 := by
    rw [← List.length_map Pddu.id, ids, List.length_range]
  have hasData : withData allUsers () = [⟨255, fun _ => 1, fun _ => [5]⟩] := by
    rw [withData, allUsers, List.filter_append, List.filter_eq_nil_iff.mpr]
    · rfl
    · intro user member
      obtain ⟨id, _, rfl⟩ := List.mem_map.mp member
      exact fun positive => of_decide_eq_true positive rfl
  have writes : WritesLength allUsers () := by
    intro user member
    rcases List.mem_append.mp member with silent | last
    · obtain ⟨id, _, rfl⟩ := List.mem_map.mp silent
      rfl
    · rw [List.mem_singleton.mp last]
      rfl
  obtain ⟨calls, ran, given⟩ := delivers allUsers distinct
    (fun user member => List.mem_range.mp (ids ▸ List.mem_map.mpr ⟨user, member, rfl⟩)) writes
    (by rw [payloadLength, hasData]; decide)
  rw [roundTrip, serialiseDevice_stores_nothing (Or.inl full) (rfl : _ = some ())] at ran
  cases ran
  rw [delivered_self distinct, hasData] at given
  exact List.cons_ne_nil _ _ given.symm

end Storing

end HeadsetAdk.DeviceDb
