import Mathlib.Data.List.Basic
import Mathlib.Data.List.Induction

/-!
# The message stream of Fast Pair

The parser of `fast_pair_msg_stream.c` takes whole messages from the front of the source buffer, but
it keeps their length in one octet.
-/

namespace HeadsetAdk.FastPair

open List (cons_append nil_append length_append length_cons flatMap_cons flatMap_append
  append_assoc)

section Parser

structure Delivery where
  group : UInt8
  data : List UInt8
  deriving DecidableEq

/-- `msgStream_IsValidMeassageGroup` -/
def isValidMessageGroup (group : UInt8) : Bool := 0 < group.toNat ∧ group.toNat < 8

/-- The groups of `msgStream_MessageDataToGroup`; an observer is registered for some of them. -/
def messageDataToGroup (registered : UInt8 → Bool) (group : UInt8) (data : List UInt8) :
    List Delivery :=
  if group ∈ [1, 2, 3, 4, 7] ∧ registered group = true then [⟨group, data⟩] else []

variable (registered : UInt8 → Bool)

/-- The loop of `msgStream_HandleIncomingData`, of at most `fuel` rounds, on the received data
that are not processed: how many octets it takes, and what it delivers.  A source buffer has
at most 65535 octets, so no sum of lengths wraps. -/
def handleLoop : Nat → List UInt8 → Nat × List Delivery
  | fuel + 1, group :: code :: upper :: lower :: rest =>
    let additionalDataLen := ((upper.toNat <<< 8) + lower.toNat) % 256
    let additionalDataLen := if isValidMessageGroup group = true then additionalDataLen else 0
    if rest.length < additionalDataLen then (0, [])
    else
      let delivered := messageDataToGroup registered group
        (code :: upper :: lower :: rest.take additionalDataLen)
      -- The whole buffer is dumped for an invalid group.
      if isValidMessageGroup group = false then (rest.length + 4, delivered)
      else
        let (processed, later) := handleLoop fuel (rest.drop additionalDataLen)
        (additionalDataLen + 4 + processed, delivered ++ later)
  | _, _ => (0, [])

/-- `msgStream_HandleIncomingData` -/
def handleIncomingData (data : List UInt8) : Nat × List Delivery :=
  handleLoop registered data.length data

structure Reception where
  buffer : List UInt8
  delivered : List Delivery

def Reception.arrive (reception : Reception) (arrival : List UInt8) : Reception :=
  let (processed, delivered) := handleIncomingData registered (reception.buffer ++ arrival)
  ⟨(reception.buffer ++ arrival).drop processed, reception.delivered ++ delivered⟩

end Parser

section Frames

structure Frame where
  group : UInt8
  code : UInt8
  data : List UInt8
  valid : isValidMessageGroup group = true
  fits : data.length < 65536

def Frame.length16 (frame : Frame) : List UInt8 :=
  [UInt8.ofNat (frame.data.length / 256), UInt8.ofNat (frame.data.length % 256)]

def Frame.octets (frame : Frame) : List UInt8 :=
  frame.group :: frame.code :: (frame.length16 ++ frame.data)

variable (registered : UInt8 → Bool)

def Frame.expected (frame : Frame) : List Delivery :=
  messageDataToGroup registered frame.group (frame.code :: (frame.length16 ++ frame.data))

def Follows (frames : List Frame) (arrived : List UInt8) (reception : Reception) : Prop :=
  ∃ whole rest, frames = whole ++ rest ∧
    arrived = whole.flatMap Frame.octets ++ reception.buffer ∧
    reception.delivered = whole.flatMap (Frame.expected registered) ∧
    ∀ frame ∈ rest.head?, reception.buffer.length < frame.octets.length

def ReceivesRight (frames : List Frame) (arrivals : List (List UInt8)) : Prop :=
  ∀ before after, arrivals = before ++ after →
    Follows registered frames before.flatten
      (before.foldl (Reception.arrive registered) ⟨[], []⟩)

variable {registered} {frame : Frame} {frames : List Frame} {fuel : Nat} {behind : List UInt8}

theorem length_read (frame : Frame) :
    (((UInt8.ofNat (frame.data.length / 256)).toNat <<< 8) +
      (UInt8.ofNat (frame.data.length % 256)).toNat) % 256 = frame.data.length % 256 := by
  rw [Nat.shiftLeft_eq, UInt8.toNat_ofNat', UInt8.toNat_ofNat']
  omega

theorem handleLoop_frame (registered : UInt8 → Bool) (fuel : Nat) (frame : Frame)
    (read : List UInt8) (long : frame.data.length % 256 ≤ read.length) :
    handleLoop registered (fuel + 1) (frame.group :: frame.code :: (frame.length16 ++ read)) =
      let (processed, later) :=
        handleLoop registered fuel (read.drop (frame.data.length % 256))
      (frame.data.length % 256 + 4 + processed,
        messageDataToGroup registered frame.group (frame.code ::
          (frame.length16 ++ read.take (frame.data.length % 256))) ++ later) := by
  rw [Frame.length16, cons_append, cons_append, nil_append, handleLoop]
  simp only [length_read, frame.valid, if_true]
  rw [if_neg (by omega), if_neg (by decide)]
  rfl

theorem handleLoop_octets (short : frame.data.length < 256) :
    handleLoop registered (fuel + 1) (frame.octets ++ behind) =
      let (processed, later) := handleLoop registered fuel behind
      (frame.octets.length + processed, frame.expected registered ++ later) := by
  have small := Nat.mod_eq_of_lt short
  have long : frame.data.length % 256 ≤ (frame.data ++ behind).length := by
    rw [small, length_append]
    omega
  have whole := handleLoop_frame registered fuel frame (frame.data ++ behind) long
  have octets : frame.octets ++ behind =
      frame.group :: frame.code :: (frame.length16 ++ (frame.data ++ behind)) := by
    simp [Frame.octets]
  have length : frame.octets.length = frame.data.length + 4 := by
    simp [Frame.octets, Frame.length16]
  rw [octets, whole, small, List.drop_left, List.take_left, length, Frame.expected]

theorem handleLoop_part (short : frame.data.length < 256) {part : List UInt8}
    (inside : part <+: frame.octets) (less : part.length < frame.octets.length) :
    handleLoop registered fuel part = (0, []) := by
  rcases part with _ | ⟨group, _ | ⟨code, _ | ⟨upper, _ | ⟨lower, part⟩⟩⟩⟩
  case cons.cons.cons.cons =>
    rw [Frame.octets, Frame.length16] at inside less
    simp only [cons_append, nil_append, List.cons_prefix_cons] at inside
    obtain ⟨rfl, rfl, rfl, rfl, inside⟩ := inside
    cases fuel with
    | zero => rfl
    | succ fuel =>
      rw [handleLoop]
      simp only [length_read, frame.valid, if_true]
      simp only [length_cons, length_append, List.length_nil] at less
      rw [if_pos (by rw [Nat.mod_eq_of_lt short]; omega)]
  all_goals cases fuel <;> rfl

section

variable (short : ∀ frame ∈ frames, frame.data.length < 256)

include short

theorem handleLoop_stream {received : List UInt8}
    (inside : received <+: frames.flatMap Frame.octets) (rounds : received.length ≤ fuel) :
    ∃ whole rest tail, frames = whole ++ rest ∧ received = whole.flatMap Frame.octets ++ tail ∧
      (∀ frame ∈ rest.head?, tail.length < frame.octets.length) ∧
      handleLoop registered fuel received =
        ((whole.flatMap Frame.octets).length, whole.flatMap (Frame.expected registered)) := by
  induction frames generalizing received fuel with
  | nil =>
    obtain rfl := List.prefix_nil.mp inside
    exact ⟨[], [], [], rfl, rfl, by simp, by cases fuel <;> rfl⟩
  | cons frame frames ih =>
    obtain ⟨shortFirst, shortRest⟩ := List.forall_mem_cons.mp short
    rw [flatMap_cons] at inside
    by_cases less : received.length < frame.octets.length
    · have part := List.prefix_of_prefix_length_le inside (List.prefix_append _ _)
        (Nat.le_of_lt less)
      exact ⟨[], frame :: frames, received, rfl, rfl, by simpa using less,
        handleLoop_part shortFirst part less⟩
    · obtain ⟨behind, rfl⟩ :=
        List.prefix_of_prefix_length_le (List.prefix_append _ _) inside (Nat.not_lt.mp less)
      have later := (List.prefix_append_right_inj _).mp inside
      rw [length_append, Frame.octets, length_cons] at rounds
      cases fuel with
      | zero => omega
      | succ fuel =>
        obtain ⟨whole, rest, tail, rfl, rfl, few, handled⟩ :=
          ih shortRest later (show behind.length ≤ fuel by omega)
        refine ⟨frame :: whole, rest, tail, rfl, by simp, few, ?_⟩
        rw [handleLoop_octets shortFirst, handled]
        simp

theorem follows_arrive {reception : Reception} {arrived arrival : List UInt8}
    (follows : Follows registered frames arrived reception)
    (inside : arrived ++ arrival <+: frames.flatMap Frame.octets) :
    Follows registered frames (arrived ++ arrival) (reception.arrive registered arrival) := by
  obtain ⟨whole, rest, rfl, rfl, delivered, _⟩ := follows
  rw [flatMap_append, append_assoc, List.prefix_append_right_inj] at inside
  obtain ⟨more, rest, tail, rfl, taken, few, handled⟩ := handleLoop_stream
    (fun frame member => short frame (List.mem_append_right _ member)) inside (Nat.le_refl _)
  refine ⟨whole ++ more, rest, by simp, ?_, ?_, ?_⟩ <;>
    rw [Reception.arrive, handleIncomingData, handled]
  · simp [taken]
  · simp [delivered]
  · simpa [taken] using few

theorem processed_whole (rounds : frames.length ≤ fuel) :
    (handleLoop registered fuel (frames.flatMap Frame.octets ++ behind)).1 =
      (frames.flatMap Frame.octets).length +
        (handleLoop registered (fuel - frames.length) behind).1 := by
  induction frames generalizing fuel with
  | nil => simp
  | cons frame frames ih =>
    obtain ⟨shortFirst, shortRest⟩ := List.forall_mem_cons.mp short
    cases fuel with
    | zero => simp at rounds
    | succ fuel =>
      rw [flatMap_cons, append_assoc, handleLoop_octets shortFirst]
      simp only [ih shortRest (Nat.le_of_succ_le_succ rounds), length_append,
        length_cons, Nat.add_sub_add_right, Nat.add_assoc]

end

/-- The first message that is too long, when its octets have arrived as far as the parser
takes the message to go. -/
def cutLong (before : List Frame) (frame : Frame) (after : List Frame) : List (List UInt8) :=
  [before.flatMap Frame.octets ++ frame.group :: frame.code ::
      (frame.length16 ++ frame.data.take (frame.data.length % 256)),
    frame.data.drop (frame.data.length % 256) ++ after.flatMap Frame.octets]

theorem length_le_octets (frames : List Frame) :
    frames.length ≤ (frames.flatMap Frame.octets).length := by
  induction frames with
  | nil => simp
  | cons frame frames ih =>
    simp only [flatMap_cons, length_append, length_cons, Frame.octets]
    omega

theorem not_receivesRight_cutLong {before after : List Frame}
    (short : ∀ frame ∈ before, frame.data.length < 256) (long : 256 ≤ frame.data.length) :
    ¬ ReceivesRight registered (before ++ frame :: after) (cutLong before frame after) := by
  intro right
  obtain ⟨whole, rest, split, arrived, -, -⟩ := right [_] [_] rfl
  set read := frame.data.length % 256 with readDef
  have cut : (frame.data.take read).length = read := List.length_take_of_le (by omega)
  set part := frame.group :: frame.code :: (frame.length16 ++ frame.data.take read) with partDef
  have partLength : part.length = read + 4 := by simp [partDef, Frame.length16, cut]
  have processed : (handleIncomingData registered (before.flatMap Frame.octets ++ part)).1 =
      (before.flatMap Frame.octets ++ part).length := by
    have rounds := length_le_octets before
    rw [handleIncomingData, processed_whole short
      (by rw [length_append]; omega), length_append]
    obtain ⟨fuel, more⟩ : ∃ fuel,
        (before.flatMap Frame.octets).length + part.length - before.length = fuel + 1 :=
      ⟨(before.flatMap Frame.octets).length + part.length - before.length - 1, by omega⟩
    rw [more, partDef, handleLoop_frame _ _ _ _ (Nat.le_of_eq cut.symm), ← readDef,
      List.drop_of_length_le (Nat.le_of_eq cut), ← partDef, partLength]
    cases fuel <;> rfl
  -- Everything was taken, so that it would have to be whole messages.
  simp only [List.foldl_cons, List.foldl_nil, Reception.arrive, nil_append, processed,
    List.drop_length, List.append_nil, List.flatten_cons, List.flatten_nil] at arrived
  have lengths := congrArg List.length arrived
  rw [length_append, partLength] at lengths
  rcases List.append_eq_append_iff.mp split with ⟨more, rfl, same⟩ | ⟨more, rfl, _⟩
  · rw [flatMap_append, length_append] at lengths
    cases more with
    | nil => simp at lengths
    | cons first more =>
      cases (List.cons.inj same).1
      rw [flatMap_cons, length_append, Frame.octets] at lengths
      simp only [length_cons, length_append] at lengths
      omega
  · rw [flatMap_append, length_append] at lengths
    omega

theorem cutLong_flatten (before : List Frame) (frame : Frame) (after : List Frame) :
    (cutLong before frame after).flatten = (before ++ frame :: after).flatMap Frame.octets := by
  simp only [cutLong, List.flatten_cons, List.flatten_nil, List.append_nil, append_assoc,
    cons_append, flatMap_append, flatMap_cons, Frame.octets]
  rw [← append_assoc (frame.data.take _), List.take_append_drop]

/-- Each way to cut a stream of messages is received right, if and only if the length of every
message fits in one octet. -/
theorem receivesRight_iff_short (registered : UInt8 → Bool) (frames : List Frame) :
    (∀ arrivals : List (List UInt8), arrivals.flatten = frames.flatMap Frame.octets →
      ReceivesRight registered frames arrivals) ↔
    ∀ frame ∈ frames, frame.data.length < 256 := by
  constructor
  · intro right
    by_contra some_long
    have found : (frames.find? fun frame => decide (256 ≤ frame.data.length)).isSome = true := by
      simpa using some_long
    obtain ⟨frame, found⟩ := Option.isSome_iff_exists.mp found
    obtain ⟨long, before, after, rfl, short⟩ := List.find?_eq_some_iff_append.mp found
    exact not_receivesRight_cutLong (fun frame member => by simpa using short frame member)
      (of_decide_eq_true long) (right _ (cutLong_flatten before frame after))
  · rintro short arrivals stream before after rfl
    rw [List.flatten_append] at stream
    have inside : before.flatten <+: frames.flatMap Frame.octets := ⟨_, stream⟩
    clear stream
    induction before using List.reverseRecOn with
    | nil => exact ⟨[], frames, rfl, rfl, rfl, by cases frames <;> simp [Frame.octets]⟩
    | append_singleton before arrival ih =>
      rw [List.flatten_append, List.flatten_singleton] at inside ⊢
      rw [List.foldl_append, List.foldl_cons, List.foldl_nil]
      exact follows_arrive short (ih ((List.prefix_append _ _).trans inside)) inside

/-- A message with 256 octets of data, the least number that needs the upper octet. -/
def longFrame : Frame :=
  ⟨1, 1, List.replicate 256 0, by decide, by rw [List.length_replicate]; decide⟩

/-- The header of the message is taken for all of it. -/
theorem longFrame_takenShort :
    ¬ ∀ (registered : UInt8 → Bool) (frames : List Frame) (arrivals : List (List UInt8)),
      arrivals.flatten = frames.flatMap Frame.octets →
        ReceivesRight registered frames arrivals := by
  intro claim
  have right := claim (fun _ => true) _ _ (cutLong_flatten [] longFrame [])
  exact not_receivesRight_cutLong (List.forall_mem_nil _)
    (Nat.le_of_eq List.length_replicate.symm) right

end Frames

end HeadsetAdk.FastPair
