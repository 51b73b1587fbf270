import HeadsetAdk.FastPair.MessageStream

/-!
# Sending on the message stream

A message has a length of 16 bits and is sent to one seeker or to each.  The loop that logs the
octets counts them in one octet.
-/

namespace HeadsetAdk.FastPair

/-- `FASTPAIR_RFCOMM_CONNECTIONS_MAX` -/
def rfcommConnectionsMax : Nat := 2

/-- Of each instance of RFCOMM that is connected, how many octets its sink can claim. -/
abbrev Links := Nat → Option Nat

/-- `fastPair_RfcommSendData` to a seeker number: the number and the octets that are sent. -/
def rfcommSendData (links : Links) (data : List UInt8) (number : Nat) : List (Nat × List UInt8) :=
  if number ≠ 0 ∧ number ≤ rfcommConnectionsMax then
    match links (number - 1) with
    | some room => if data.length ≤ room then [(number, data)] else []
    | none => []
  else []

/-- The octets of `msg_stream_data`, and its length; there are none when they are written
behind the memory of that length. -/
def messageData (group code : UInt8) (addData : List UInt8) : Option (List UInt8 × Nat) :=
  let addDataLen := addData.length
  let msgStreamDataLen := (4 + addDataLen) % 65536
  if msgStreamDataLen < 4 + addDataLen then none
  else some (group :: code :: UInt8.ofNat (((addDataLen &&& 0xFF00) >>> 8) &&& 0xFF) ::
    UInt8.ofNat (addDataLen &&& 0xFF) :: addData, msgStreamDataLen)

/-- The rest of the logging loop with its `uint8` index, when it ends within `fuel` rounds. -/
def logLoop (length : Nat) : Nat → UInt8 → Option Unit
  | 0, _ => none
  | fuel + 1, i => if i.toNat < length then logLoop length fuel (i + 1) else some ()

/-- `fastPair_MsgStreamSendData`, whose logging loop has an `int` index and always ends. -/
def sendData (links : Links) (group code : UInt8) (addData : List UInt8) (number : Nat) :
    Option (List (Nat × List UInt8)) := do
  let (data, _) ← messageData group code addData
  return rfcommSendData links data number

/-- `fastPair_MsgStreamSendDataToAll`, when it ends within `fuel` rounds of its log. -/
def sendDataToAll (fuel : Nat) (links : Links) (group code : UInt8) (addData : List UInt8) :
    Option (List (Nat × List UInt8)) :=
  if (List.range rfcommConnectionsMax).all (fun instanceNumber =>
      (links instanceNumber).isNone) = true then some []
  else do
    let (data, length) ← messageData group code addData
    let _ ← logLoop length fuel 0
    return (List.range rfcommConnectionsMax).flatMap fun instanceNumber =>
      if (links instanceNumber).isSome = true then
        rfcommSendData links data (instanceNumber + 1)
      else []

section Messages

structure Message where
  group : UInt8
  code : UInt8
  data : List UInt8
  fits : data.length < 65536

variable {links : Links} {message : Message}

def Message.octets (message : Message) : List UInt8 :=
  message.group :: message.code :: UInt8.ofNat (message.data.length / 256) ::
    UInt8.ofNat (message.data.length % 256) :: message.data

/-- What the observers of a receiver are to get: nothing for a group that has no observer. -/
def Message.expected (registered : UInt8 → Bool) (message : Message) : List Delivery :=
  messageDataToGroup registered message.group message.octets.tail

def Reaches (links : Links) (octets : List UInt8) (number : Nat) : Prop :=
  number ≠ 0 ∧ number ≤ rfcommConnectionsMax ∧
    ∃ room, links (number - 1) = some room ∧ octets.length ≤ room

structure SendsRight (links : Links) (message : Message) : Prop where
  toAll : ∃ fuel sent,
    sendDataToAll fuel links message.group message.code message.data = some sent ∧
    ∀ number octets, (number, octets) ∈ sent ↔
      octets = message.octets ∧ Reaches links message.octets number
  toOne : ∀ number, ∃ sent,
    sendData links message.group message.code message.data number = some sent ∧
    ∀ receiver octets, (receiver, octets) ∈ sent ↔
      receiver = number ∧ octets = message.octets ∧ Reaches links message.octets number
  decoded : ∀ number, Reaches links message.octets number → ∀ registered,
    handleIncomingData registered message.octets =
      (message.octets.length, message.expected registered)

def Alone (links : Links) : Prop := ∀ instanceNumber < rfcommConnectionsMax,
  links instanceNumber = none

theorem all_isNone : (List.range rfcommConnectionsMax).all (fun instanceNumber =>
    (links instanceNumber).isNone) = true ↔ Alone links := by
  simp only [List.all_eq_true, List.mem_range, Option.isNone_iff_eq_none, Alone]

theorem Alone.not_reaches (alone : Alone links) (octets : List UInt8) (number : Nat) :
    ¬ Reaches links octets number := by
  rintro ⟨nonzero, inside, room, linked, _⟩
  rw [alone (number - 1) (by omega)] at linked
  cases linked

variable {length number : Nat} {data octets : List UInt8}

theorem logLoop_ends {fuel : Nat} (i : UInt8) (short : length < 256)
    (rounds : length - i.toNat < fuel) : logLoop length fuel i = some () := by
  induction fuel generalizing i with
  | zero => omega
  | succ fuel ih =>
    rw [logLoop]
    split
    next inside =>
      have next : (i + 1).toNat = i.toNat + 1 := by
        rw [UInt8.toNat_add]
        exact Nat.mod_eq_of_lt (by simp; omega)
      exact ih (i + 1) (by omega)
    next => rfl

theorem logLoop_long (long : 256 ≤ length) (fuel : Nat) (i : UInt8) :
    logLoop length fuel i = none := by
  induction fuel generalizing i with
  | zero => rfl
  | succ fuel ih =>
    rw [logLoop, if_pos (Nat.lt_of_lt_of_le i.toNat_lt long), ih]

theorem messageData_message (message : Message) :
    messageData message.group message.code message.data =
      if message.data.length < 65532 then some (message.octets, 4 + message.data.length)
      else none := by
  have fits := message.fits
  have upper : ((message.data.length &&& 0xFF00) >>> 8) &&& 0xFF = message.data.length / 256 := by
    rw [Nat.shiftRight_and_distrib, Nat.and_assoc, Nat.shiftRight_eq_div_pow]
    exact (Nat.and_two_pow_sub_one_eq_mod _ 8).trans (Nat.mod_eq_of_lt (by omega))
  have lower : message.data.length &&& 0xFF = message.data.length % 256 :=
    Nat.and_two_pow_sub_one_eq_mod _ 8
  simp only [messageData, upper, lower]
  by_cases small : message.data.length < 65532
  · have count : (4 + message.data.length) % 65536 = 4 + message.data.length :=
      Nat.mod_eq_of_lt (by omega)
    rw [count, if_neg (Nat.lt_irrefl _), if_pos small]
    rfl
  · rw [if_pos (by omega), if_neg small]

theorem mem_rfcommSendData {receiver : Nat} :
    (receiver, octets) ∈ rfcommSendData links data number ↔
      receiver = number ∧ octets = data ∧ Reaches links data number := by
  rw [rfcommSendData, Reaches]
  split
  next inside =>
    cases linked : links (number - 1) with
    | none => simp
    | some room => by_cases fits : data.length ≤ room <;> simp [inside, fits]
  next outside =>
    constructor
    · intro sent
      cases sent
    · rintro ⟨_, _, nonzero, inside, _⟩
      exact absurd ⟨nonzero, inside⟩ outside

theorem mem_sentToAll :
    (number, octets) ∈ ((List.range rfcommConnectionsMax).flatMap fun instanceNumber =>
        if (links instanceNumber).isSome = true then
          rfcommSendData links data (instanceNumber + 1)
        else []) ↔
      octets = data ∧ Reaches links data number := by
  rw [List.mem_flatMap]
  constructor
  · rintro ⟨instanceNumber, _, sent⟩
    split at sent
    · obtain ⟨rfl, same, reached⟩ := mem_rfcommSendData.mp sent
      exact ⟨same, reached⟩
    · cases sent
  · rintro ⟨same, reached⟩
    obtain ⟨nonzero, inside, room, linked, _⟩ := id reached
    refine ⟨number - 1, List.mem_range.mpr (by omega), ?_⟩
    rw [linked, if_pos Option.isSome_some, Nat.sub_add_cancel (Nat.pos_of_ne_zero nonzero)]
    exact mem_rfcommSendData.mpr ⟨rfl, same, reached⟩

theorem valid_of_observed {group : UInt8} (observed : group ∈ [1, 2, 3, 4, 7]) :
    isValidMessageGroup group = true := by
  simp only [List.mem_cons, List.not_mem_nil, or_false] at observed
  rcases observed with rfl | rfl | rfl | rfl | rfl <;> rfl

theorem decoded_of_short (short : message.data.length < 256) (registered : UInt8 → Bool) :
    handleIncomingData registered message.octets =
      (message.octets.length, message.expected registered) := by
  by_cases valid : isValidMessageGroup message.group = true
  · let frame : Frame := ⟨message.group, message.code, message.data, valid, message.fits⟩
    have handled (fuel : Nat) : handleLoop registered (fuel + 1) frame.octets =
        (frame.octets.length, frame.expected registered) := by
      rw [← List.append_nil frame.octets, handleLoop_octets short]
      cases fuel <;> simp [handleLoop]
    exact handled _
  · -- The parser dumps the message, and no observer can be registered for it.
    have unobserved (data : List UInt8) : messageDataToGroup registered message.group data = [] :=
      if_neg fun observed => valid (valid_of_observed observed.1)
    rw [handleIncomingData, Message.expected, unobserved, Message.octets, List.length_cons,
      handleLoop]
    simp [valid, unobserved]

/-- The least message whose log never ends, with 256 octets. -/
def endlessMessage : Message :=
  ⟨1, 1, List.replicate 252 0, by rw [List.length_replicate]; decide⟩

end Messages

end HeadsetAdk.FastPair
