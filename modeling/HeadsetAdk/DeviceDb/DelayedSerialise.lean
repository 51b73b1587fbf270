import HeadsetAdk.Lib.EventLog
import HeadsetAdk.Lib.TimedQueue

/-!
# Delayed serialisation

The part of `device_db_serialiser.c` that sends and cancels the messages of a device, one for a
strict deadline and one for a lazy one.  `none` is an overflow.  The clock is taken not to come
round while a message waits.
-/

namespace HeadsetAdk.DeviceDb

open TimedQueue
open Option (some.inj)
open Int32 (maxValue minValue toInt_inj)

def delayedSerialiseStrictMessageOffset : Nat := 0x8000

/-- The index of a device that is on the device list; `0xFF` is that of no device. -/
abbrev DeviceIndex := Fin 0xFF

def idLazy (device : DeviceIndex) : Nat := device

def idStrict (device : DeviceIndex) : Nat :=
  idLazy device + delayedSerialiseStrictMessageOffset

/-- The clock, and the messages of `ddb_serialise_device_later_task`. -/
structure Scheduler where
  now : Int
  queue : List (Timed Nat)

namespace Scheduler

def messageSendLater (id : Nat) (delay : Int) (scheduler : Scheduler) : Scheduler :=
  { scheduler with queue := send ⟨id, scheduler.now + delay⟩ scheduler.queue }

def messageCancelFirst (id : Nat) (scheduler : Scheduler) : Scheduler :=
  { scheduler with queue := cancelFirst id scheduler.queue }

/-- `MessagePendingFirst`: how long it is until the message is due. -/
def messagePendingFirst (id : Nat) (scheduler : Scheduler) : Option Int :=
  (pendingFirst id scheduler.queue).map fun due => due - scheduler.now

def cancelDelayedSerialise (index : Nat) (scheduler : Scheduler) : Scheduler :=
  if index ≠ 0xFF then
    (scheduler.messageCancelFirst index).messageCancelFirst
      (index + delayedSerialiseStrictMessageOffset)
  else scheduler

/-- `deviceDbSerialiser_SerialiseDevice`: without a user or an address it returns before the
messages are cancelled. -/
def serialiseDevice (index : Nat) (numRegisteredPddus : UInt8) (hasBdaddr : Bool)
    (scheduler : Scheduler) : Scheduler :=
  if numRegisteredPddus = 0 then scheduler
  else if hasBdaddr = false then scheduler
  else scheduler.cancelDelayedSerialise index

/-- `DeviceDbSerialiser_Serialise`, which flushes the messages of the task. -/
def serialise (scheduler : Scheduler) : Scheduler :=
  { scheduler with queue := [] }

def serialiseDeviceLater (device : DeviceIndex) (delay : Int32) (scheduler : Scheduler) :
    Option Scheduler :=
  let pendingLazy := scheduler.messagePendingFirst (idLazy device)
  let pendingStrict := scheduler.messagePendingFirst (idStrict device)
  let dueLazy := pendingLazy.getD 0
  let dueStrict := pendingStrict.getD maxValue.toInt
  if delay.toInt < 0 then
    if delay = minValue then none
    else if dueStrict > -delay.toInt then
      let cancelled :=
        if pendingStrict.isSome = true then scheduler.messageCancelFirst (idStrict device)
        else scheduler
      let sent := cancelled.messageSendLater (idStrict device) (-delay.toInt)
      if pendingLazy.isSome = true then some (sent.messageCancelFirst (idLazy device))
      else some sent
    else some scheduler
  else if pendingStrict.isSome = true then some scheduler
  else if dueLazy < delay.toInt then
    let cancelled :=
      if pendingLazy.isSome = true then scheduler.messageCancelFirst (idLazy device)
      else scheduler
    some (cancelled.messageSendLater (idLazy device) delay.toInt)
  else some scheduler

def delivered (scheduler : Scheduler) : Option (Timed Nat) :=
  scheduler.queue.head?.filter fun message => decide (message.due ≤ scheduler.now)

/-- `deviceDbSeraliser_SerialiseDeviceLaterMessageHandler`, for the message that is delivered
next. -/
def laterMessageHandler (numRegisteredPddus : UInt8) (hasBdaddr : Bool) (scheduler : Scheduler) :
    Scheduler :=
  match scheduler.delivered with
  | none => scheduler
  | some message =>
      { scheduler with queue := scheduler.queue.tail }.serialiseDevice
        (if message.id ≥ delayedSerialiseStrictMessageOffset then
          message.id - delayedSerialiseStrictMessageOffset
        else message.id) numRegisteredPddus hasBdaddr

end Scheduler

inductive Event
  | serialiseDeviceLater (device : DeviceIndex) (delay : Int32)
  | pass (milliseconds : Nat)
  | deliver (numRegisteredPddus : UInt8) (hasBdaddr : Bool)
  | serialiseDevice (device : DeviceIndex) (numRegisteredPddus : UInt8) (hasBdaddr : Bool)
  | serialise
  deriving DecidableEq

def Scheduler.step (scheduler : Scheduler) : Event → Option Scheduler
  | .serialiseDeviceLater device delay => scheduler.serialiseDeviceLater device delay
  | .pass milliseconds => some { scheduler with now := scheduler.now + milliseconds }
  | .deliver numRegisteredPddus hasBdaddr =>
      some (scheduler.laterMessageHandler numRegisteredPddus hasBdaddr)
  | .serialiseDevice device numRegisteredPddus hasBdaddr =>
      some (scheduler.serialiseDevice device numRegisteredPddus hasBdaddr)
  | .serialise => some scheduler.serialise

def ownIds (device : DeviceIndex) (id : Nat) : Bool :=
  decide (id = idLazy device) || decide (id = idStrict device)

def Scheduler.messages (scheduler : Scheduler) (device : DeviceIndex) : List (Timed Nat) :=
  among (ownIds device) scheduler.queue

/-- The deadlines that a device has been given since it was serialised last. -/
structure Deadlines where
  lazily : List Int
  strict : List Int

def Deadlines.next (deadlines : Deadlines) (device : DeviceIndex) (scheduler : Scheduler) :
    Event → Deadlines
  | .serialiseDeviceLater other delay =>
      if other = device then
        if delay.toInt < 0 then
          { deadlines with strict := (scheduler.now - delay.toInt) :: deadlines.strict }
        else { deadlines with lazily := (scheduler.now + delay.toInt) :: deadlines.lazily }
      else deadlines
  | .pass _ => deadlines
  | .deliver _ _ =>
      if (scheduler.delivered.any fun message => ownIds device message.id) = true then ⟨[], []⟩
      else deadlines
  | .serialiseDevice other numRegisteredPddus hasBdaddr =>
      if other = device ∧ numRegisteredPddus ≠ 0 ∧ hasBdaddr = true then ⟨[], []⟩ else deadlines
  | .serialise => ⟨[], []⟩

/-- A device without deadlines has no message.  With a strict deadline it has one message, which
is due by all of them, and with lazy deadlines only it has one at the latest of them. -/
structure Meets (device : DeviceIndex) (scheduler : Scheduler) (deadlines : Deadlines) : Prop where
  none : deadlines.lazily = [] → deadlines.strict = [] → scheduler.messages device = []
  strict : deadlines.strict ≠ [] →
    ∃ due, scheduler.messages device = [⟨idStrict device, due⟩] ∧
      ∀ deadline ∈ deadlines.strict, due ≤ deadline
  lazily : deadlines.lazily ≠ [] → deadlines.strict = [] →
    ∃ due, scheduler.messages device = [⟨idLazy device, due⟩] ∧ due ∈ deadlines.lazily ∧
      ∀ deadline ∈ deadlines.lazily, deadline ≤ due

def Honoured (device : DeviceIndex) (scheduler : Scheduler) : Event → Prop
  | .serialiseDeviceLater other delay =>
      other = device →
        (delay = 0 → scheduler.messages device ≠ []) ∧
        (delay = -maxValue →
          (scheduler.messagePendingFirst (idStrict device)).isSome = true) ∧
        delay ≠ minValue
  | _ => True

instance (device : DeviceIndex) (scheduler : Scheduler) :
    (event : Event) → Decidable (Honoured device scheduler event)
  | .serialiseDeviceLater other delay =>
      inferInstanceAs (Decidable (other = device →
        (delay = 0 → scheduler.messages device ≠ []) ∧
        (delay = -maxValue →
          (scheduler.messagePendingFirst (idStrict device)).isSome = true) ∧
        delay ≠ minValue))
  | .pass _ => isTrue trivial
  | .deliver _ _ => isTrue trivial
  | .serialiseDevice _ _ _ => isTrue trivial
  | .serialise => isTrue trivial

section Identifiers

variable {device other : DeviceIndex} {id : Nat}

theorem ownIds_iff : ownIds device id = true ↔ id = idLazy device ∨ id = idStrict device := by
  rw [ownIds, Bool.or_eq_true, decide_eq_true_iff, decide_eq_true_iff]

theorem ownIds_lazy (device : DeviceIndex) : ownIds device (idLazy device) = true :=
  ownIds_iff.mpr (.inl rfl)

theorem ownIds_strict (device : DeviceIndex) : ownIds device (idStrict device) = true :=
  ownIds_iff.mpr (.inr rfl)

theorem idStrict_ne_idLazy (device other : DeviceIndex) : idStrict device ≠ idLazy other := by
  have small := other.isLt
  rw [idStrict, idLazy, idLazy, delayedSerialiseStrictMessageOffset]
  omega

theorem idLazy_ne (device : DeviceIndex) : idLazy device ≠ 0xFF :=
  Nat.ne_of_lt device.isLt

theorem not_ownIds_lazy (differ : other ≠ device) : ownIds device (idLazy other) = false := by
  rw [Bool.eq_false_iff, Ne, ownIds_iff, not_or]
  exact ⟨fun same => differ (Fin.ext same), (idStrict_ne_idLazy device other).symm⟩

theorem not_ownIds_strict (differ : other ≠ device) : ownIds device (idStrict other) = false := by
  rw [Bool.eq_false_iff, Ne, ownIds_iff, not_or]
  refine ⟨idStrict_ne_idLazy other device, fun same => differ (Fin.ext ?_)⟩
  exact Nat.add_right_cancel same

theorem index_of_ownIds (own : ownIds device id = true) :
    (if id ≥ delayedSerialiseStrictMessageOffset then id - delayedSerialiseStrictMessageOffset
      else id) = idLazy device := by
  have small := device.isLt
  rcases ownIds_iff.mp own with rfl | rfl
  · rw [if_neg]
    rw [idLazy, delayedSerialiseStrictMessageOffset]
    omega
  · rw [if_pos (show idStrict device ≥ _ from Nat.le_add_left _ _)]
    exact Nat.add_sub_cancel _ _

end Identifiers

section Messages

variable {device other : DeviceIndex} {scheduler next : Scheduler} {id : Nat} {due delay : Int}

namespace Scheduler

theorem messages_sendLater_other (notOwn : ownIds device id = false) :
    (scheduler.messageSendLater id delay).messages device = scheduler.messages device :=
  among_send_other notOwn

theorem messages_cancelFirst_other (notOwn : ownIds device id = false) :
    (scheduler.messageCancelFirst id).messages device = scheduler.messages device :=
  among_cancelFirst_other notOwn

section

variable (own : ownIds device id = true)

include own

theorem messages_cancelFirst :
    (scheduler.messageCancelFirst id).messages device = cancelFirst id
    (scheduler.messages device) :=
  among_cancelFirst own

theorem messages_sendLater (silent : scheduler.messages device = []) :
    (scheduler.messageSendLater id delay).messages device = [⟨id, scheduler.now + delay⟩] :=
  among_send_first own silent

theorem messagePendingFirst_eq :
    scheduler.messagePendingFirst id =
      (pendingFirst id (scheduler.messages device)).map fun due => due - scheduler.now := by
  rw [messagePendingFirst, messages, pendingFirst_among own]

theorem messagePendingFirst_silent
    (silent : scheduler.messages device = []) : scheduler.messagePendingFirst id = none := by
  rw [messagePendingFirst_eq own, silent]
  rfl

theorem messagePendingFirst_self (only : scheduler.messages device = [⟨id, due⟩]) :
    scheduler.messagePendingFirst id = some (due - scheduler.now) := by
  rw [messagePendingFirst_eq own, only, pendingFirst_self]
  rfl

theorem messagePendingFirst_other {id' : Nat}
    (only : scheduler.messages device = [⟨id', due⟩]) (differ : id' ≠ id) :
    scheduler.messagePendingFirst id = none := by
  rw [messagePendingFirst_eq own, only, pendingFirst_other differ]
  rfl

theorem messages_resend (only : scheduler.messages device = [⟨id, due⟩]) :
    ((scheduler.messageCancelFirst id).messageSendLater id delay).messages device =
      [⟨id, scheduler.now + delay⟩] := by
  refine messages_sendLater own ?_
  rw [messages_cancelFirst own, only, cancelFirst_self]

end

theorem messages_cancelDelayedSerialise_other (differ : other ≠ device) :
    (scheduler.cancelDelayedSerialise (idLazy other)).messages device =
      scheduler.messages device := by
  rw [cancelDelayedSerialise, if_pos (idLazy_ne other), ← idStrict,
    messages_cancelFirst_other (not_ownIds_strict differ),
    messages_cancelFirst_other (not_ownIds_lazy differ)]

theorem messages_cancelDelayedSerialise (only : scheduler.messages device = [] ∨
    ∃ id due, ownIds device id = true ∧ scheduler.messages device = [⟨id, due⟩]) :
    (scheduler.cancelDelayedSerialise (idLazy device)).messages device = [] := by
  rw [cancelDelayedSerialise, if_pos (idLazy_ne device), ← idStrict,
    messages_cancelFirst (ownIds_strict device), messages_cancelFirst (ownIds_lazy device)]
  rcases only with silent | ⟨id, due, own, only⟩
  · rw [silent]
    rfl
  · rw [only]
    rcases ownIds_iff.mp own with rfl | rfl
    · rw [cancelFirst_self]
      rfl
    · rw [cancelFirst_other (idStrict_ne_idLazy device device)]
      exact cancelFirst_self _ _ _

theorem messages_serialiseDeviceLater_other {delay : Int32} (differ : other ≠ device)
    (later : scheduler.serialiseDeviceLater other delay = some next) :
    next.messages device = scheduler.messages device := by
  have notLazy := not_ownIds_lazy differ
  have notStrict := not_ownIds_strict differ
  rw [serialiseDeviceLater] at later
  dsimp only at later
  split at later
  · split at later
    · contradiction
    split at later
    · split at later <;>
      · cases later
        try rw [messages_cancelFirst_other notLazy]
        rw [messages_sendLater_other notStrict]
        split
        · exact messages_cancelFirst_other notStrict
        · rfl
    · exact some.inj later ▸ rfl
  split at later
  · exact some.inj later ▸ rfl
  split at later
  · cases later
    rw [messages_sendLater_other notLazy]
    split
    · exact messages_cancelFirst_other notLazy
    · rfl
  · exact some.inj later ▸ rfl

section Later

variable {delay : Int32}

section

variable (later : scheduler.serialiseDeviceLater device delay = some next)

include later

theorem later_strict_first (negative : delay.toInt < 0)
    (short : maxValue.toInt > -delay.toInt) (lazily : scheduler.messages device = [] ∨
      ∃ due, scheduler.messages device = [⟨idLazy device, due⟩]) :
    next.messages device = [⟨idStrict device, scheduler.now + -delay.toInt⟩] := by
  have differ := idStrict_ne_idLazy device device
  have noStrict : scheduler.messagePendingFirst (idStrict device) = none := by
    rcases lazily with silent | ⟨due, only⟩
    · exact messagePendingFirst_silent (ownIds_strict device) silent
    · exact messagePendingFirst_other (ownIds_strict device) only differ.symm
  rw [serialiseDeviceLater, if_pos negative, noStrict] at later
  split at later
  · contradiction
  rw [Option.getD_none, if_pos short] at later
  rcases lazily with silent | ⟨due, only⟩
  · rw [messagePendingFirst_silent (ownIds_lazy device) silent] at later
    cases later
    exact messages_sendLater (ownIds_strict device) silent
  · rw [messagePendingFirst_self (ownIds_lazy device) only] at later
    cases later
    exact among_cancelFirst_send (ownIds_strict device) (ownIds_lazy device) differ only

theorem later_strict_again (negative : delay.toInt < 0)
    (only : scheduler.messages device = [⟨idStrict device, due⟩]) :
    next.messages device = [⟨idStrict device, min due (scheduler.now + -delay.toInt)⟩] := by
  rw [serialiseDeviceLater, if_pos negative, messagePendingFirst_self (ownIds_strict device) only,
    messagePendingFirst_other (ownIds_lazy device) only (idStrict_ne_idLazy device device)] at later
  split at later
  · contradiction
  rw [Option.getD_some] at later
  split at later
  · cases later
    rw [min_eq_right (by omega)]
    exact messages_resend (ownIds_strict device) only
  · cases later
    rw [min_eq_left (by omega)]
    exact only

theorem later_lazy_within (positive : ¬ delay.toInt < 0)
    (only : scheduler.messages device = [⟨idStrict device, due⟩]) : next = scheduler := by
  rw [serialiseDeviceLater, if_neg positive,
    messagePendingFirst_self (ownIds_strict device) only] at later
  exact (some.inj later).symm

theorem later_lazy_first (positive : 0 < delay.toInt) (silent : scheduler.messages device = []) :
    next.messages device = [⟨idLazy device, scheduler.now + delay.toInt⟩] := by
  rw [serialiseDeviceLater, if_neg (Int.not_lt.mpr (Int.le_of_lt positive)),
    messagePendingFirst_silent (ownIds_strict device) silent,
    messagePendingFirst_silent (ownIds_lazy device) silent, Option.getD_none] at later
  dsimp only at later
  rw [if_neg (by decide), if_pos positive] at later
  cases later
  exact messages_sendLater (ownIds_lazy device) silent

theorem later_lazy_again (positive : ¬ delay.toInt < 0)
    (only : scheduler.messages device = [⟨idLazy device, due⟩]) :
    next.messages device = [⟨idLazy device, max due (scheduler.now + delay.toInt)⟩] := by
  rw [serialiseDeviceLater, if_neg positive,
    messagePendingFirst_other (ownIds_strict device) only (idStrict_ne_idLazy device device).symm,
    messagePendingFirst_self (ownIds_lazy device) only, Option.getD_some] at later
  dsimp only at later
  rw [if_neg (by decide)] at later
  split at later
  · cases later
    rw [max_eq_right (by omega)]
    exact messages_resend (ownIds_lazy device) only
  · cases later
    rw [max_eq_left (by omega)]
    exact only

end

end Later

end Scheduler

end Messages

section Runs

variable {device other : DeviceIndex} {scheduler next : Scheduler} {deadlines : Deadlines}
  {delay : Int32}

namespace Meets

theorem only (meets : Meets device scheduler deadlines) :
    scheduler.messages device = [] ∨
      ∃ id due, ownIds device id = true ∧ scheduler.messages device = [⟨id, due⟩] := by
  by_cases strictly : deadlines.strict = []
  · by_cases lazily : deadlines.lazily = []
    · exact .inl (meets.none lazily strictly)
    · obtain ⟨due, only, _⟩ := meets.lazily lazily strictly
      exact .inr ⟨_, due, ownIds_lazy device, only⟩
  · obtain ⟨due, only, _⟩ := meets.strict strictly
    exact .inr ⟨_, due, ownIds_strict device, only⟩

theorem of_silent (silent : scheduler.messages device = []) : Meets device scheduler ⟨[], []⟩ where
  none := fun _ _ => silent
  strict := fun wrong => absurd rfl wrong
  lazily := fun wrong => absurd rfl wrong

theorem of_messages_eq (meets : Meets device scheduler deadlines)
    (same : next.messages device = scheduler.messages device) : Meets device next deadlines where
  none := same ▸ meets.none
  strict := same ▸ meets.strict
  lazily := same ▸ meets.lazily

theorem short_of_ne (notLongest : delay ≠ -maxValue) (notMin : delay ≠ minValue) :
    maxValue.toInt > -delay.toInt := by
  have bound := delay.le_toInt
  have longest : delay.toInt ≠ -2147483647 := fun same =>
    notLongest (toInt_inj.mp same)
  have least : delay.toInt ≠ -2147483648 := fun same => notMin (toInt_inj.mp same)
  have value : maxValue.toInt = 2147483647 := rfl
  omega

section

variable (meets : Meets device scheduler deadlines)
  (honoured : Honoured device scheduler (.serialiseDeviceLater device delay))
  (later : scheduler.serialiseDeviceLater device delay = some next)

include meets honoured later

theorem later_strict (negative : delay.toInt < 0) :
    Meets device next
      { deadlines with strict := (scheduler.now - delay.toInt) :: deadlines.strict } := by
  obtain ⟨_, longest, notMin⟩ := honoured rfl
  have strictly : ∃ due, next.messages device = [⟨idStrict device, due⟩] ∧
      ∀ deadline ∈ (scheduler.now - delay.toInt) :: deadlines.strict, due ≤ deadline := by
    by_cases already : deadlines.strict = []
    · have lazily : scheduler.messages device = [] ∨
          ∃ due, scheduler.messages device = [⟨idLazy device, due⟩] := by
        by_cases none : deadlines.lazily = []
        · exact .inl (meets.none none already)
        · obtain ⟨due, only, _⟩ := meets.lazily none already
          exact .inr ⟨due, only⟩
      have notLongest : delay ≠ -maxValue := by
        intro same
        have pending := longest same
        rcases lazily with silent | ⟨due, only⟩
        · rw [Scheduler.messagePendingFirst_silent (ownIds_strict device) silent] at pending
          contradiction
        · rw [Scheduler.messagePendingFirst_other (ownIds_strict device) only
            (idStrict_ne_idLazy device device).symm] at pending
          contradiction
      refine ⟨_, Scheduler.later_strict_first later negative (short_of_ne notLongest notMin) lazily,
        fun deadline member => ?_⟩
      rw [already] at member
      rw [List.mem_singleton.mp member, Int.sub_eq_add_neg]
    · obtain ⟨due, only, early⟩ := meets.strict already
      refine ⟨_, Scheduler.later_strict_again later negative only, fun deadline member => ?_⟩
      rcases List.mem_cons.mp member with rfl | earlier
      · rw [Int.sub_eq_add_neg]
        exact min_le_right _ _
      · exact le_trans (min_le_left _ _) (early deadline earlier)
  exact
    { none := fun _ wrong => absurd wrong (List.cons_ne_nil _ _)
      strict := fun _ => strictly
      lazily := fun _ wrong => absurd wrong (List.cons_ne_nil _ _) }

theorem later_lazily (positive : ¬ delay.toInt < 0) :
    Meets device next
      { deadlines with lazily := (scheduler.now + delay.toInt) :: deadlines.lazily } := by
  by_cases strictly : deadlines.strict = []
  · refine
      { none := fun wrong _ => absurd wrong (List.cons_ne_nil _ _)
        strict := fun wrong => absurd strictly wrong
        lazily := fun _ _ => ?_ }
    by_cases none : deadlines.lazily = []
    · have silent := meets.none none strictly
      have nonzero : delay.toInt ≠ 0 := fun zero =>
        (honoured rfl).1 (toInt_inj.mp zero) silent
      refine ⟨_, Scheduler.later_lazy_first later (by omega) silent, List.mem_cons_self,
        fun deadline member => ?_⟩
      rw [none] at member
      exact le_of_eq (List.mem_singleton.mp member)
    · obtain ⟨due, only, requested, latest⟩ := meets.lazily none strictly
      refine ⟨_, Scheduler.later_lazy_again later positive only, ?_, fun deadline member => ?_⟩
      · rcases le_total due (scheduler.now + delay.toInt) with order | order
        · rw [max_eq_right order]
          exact List.mem_cons_self
        · rw [max_eq_left order]
          exact List.mem_cons_of_mem _ requested
      · rcases List.mem_cons.mp member with rfl | earlier
        · exact le_max_right _ _
        · exact le_trans (latest deadline earlier) (le_max_left _ _)
  · obtain ⟨due, only, early⟩ := meets.strict strictly
    obtain rfl := Scheduler.later_lazy_within later positive only
    exact
      { none := fun wrong => absurd wrong (List.cons_ne_nil _ _)
        strict := fun _ => ⟨due, only, early⟩
        lazily := fun _ wrong => absurd wrong strictly }

end

end Meets

def Known (scheduler : Scheduler) : Prop :=
  ∀ message ∈ scheduler.queue, ∃ device, ownIds device message.id = true

namespace Known

variable {id : Nat}

section

variable (known : Known scheduler)

include known

theorem messageSendLater (delay : Int) (own : ownIds device id = true) :
    Known (scheduler.messageSendLater id delay) := by
  intro message member
  rcases mem_send.mp member with rfl | earlier
  · exact ⟨device, own⟩
  · exact known message earlier

theorem messageCancelFirst : Known (scheduler.messageCancelFirst id) :=
  fun message member => known message (List.mem_of_mem_eraseP member)

theorem cancelDelayedSerialise {index : Nat} : Known (scheduler.cancelDelayedSerialise index) := by
  rw [Scheduler.cancelDelayedSerialise]
  split
  · exact known.messageCancelFirst.messageCancelFirst
  · exact known

theorem serialiseDevice {index : Nat} {numRegisteredPddus : UInt8}
    {hasBdaddr : Bool} : Known (scheduler.serialiseDevice index numRegisteredPddus hasBdaddr) := by
  rw [Scheduler.serialiseDevice]
  split
  · exact known
  split
  · exact known
  · exact known.cancelDelayedSerialise

theorem serialiseDeviceLater
    (later : scheduler.serialiseDeviceLater device delay = some next) : Known next := by
  have cancelled (id : Nat) (pending : Bool) :
      Known (if pending = true then scheduler.messageCancelFirst id else scheduler) := by
    split
    · exact known.messageCancelFirst
    · exact known
  rw [Scheduler.serialiseDeviceLater] at later
  dsimp only at later
  split at later
  · split at later
    · contradiction
    split at later
    · have sent (pending : Bool) :=
        (cancelled (idStrict device) pending).messageSendLater (-delay.toInt)
          (ownIds_strict device)
      split at later
      · exact some.inj later ▸ (sent _).messageCancelFirst
      · exact some.inj later ▸ sent _
    · exact some.inj later ▸ known
  split at later
  · exact some.inj later ▸ known
  split at later
  · exact some.inj later ▸
      (cancelled (idLazy device) _).messageSendLater _ (ownIds_lazy device)
  · exact some.inj later ▸ known

theorem step {event : Event} (stepped : scheduler.step event = some next) : Known next := by
  cases event with
  | serialiseDeviceLater device delay => exact known.serialiseDeviceLater stepped
  | pass milliseconds => exact some.inj stepped ▸ known
  | deliver numRegisteredPddus hasBdaddr =>
    cases stepped
    rw [Scheduler.laterMessageHandler]
    split
    · exact known
    · refine serialiseDevice fun message member => known message ?_
      exact List.mem_of_mem_tail member
  | serialiseDevice device numRegisteredPddus hasBdaddr =>
    exact some.inj stepped ▸ known.serialiseDevice
  | serialise =>
    cases stepped
    exact fun message member => absurd member List.not_mem_nil

end

end Known

theorem Meets.serialiseDevice (meets : Meets device scheduler deadlines) (other : DeviceIndex)
    (numRegisteredPddus : UInt8) (hasBdaddr : Bool) :
    Meets device
      (scheduler.serialiseDevice (idLazy other) numRegisteredPddus hasBdaddr)
      (if other = device ∧ numRegisteredPddus ≠ 0 ∧ hasBdaddr = true then ⟨[], []⟩
        else deadlines) := by
  rw [Scheduler.serialiseDevice]
  by_cases unused : numRegisteredPddus = 0
  · rw [if_pos unused, if_neg fun wrong => wrong.2.1 unused]
    exact meets
  rw [if_neg unused]
  by_cases unaddressed : hasBdaddr = false
  · rw [if_pos unaddressed, if_neg fun wrong => Bool.noConfusion (wrong.2.2.symm.trans unaddressed)]
    exact meets
  rw [if_neg unaddressed]
  by_cases same : other = device
  · rw [if_pos ⟨same, unused, Bool.eq_true_of_not_eq_false unaddressed⟩, same]
    exact Meets.of_silent (Scheduler.messages_cancelDelayedSerialise meets.only)
  · rw [if_neg fun wrong => same wrong.1]
    exact meets.of_messages_eq (Scheduler.messages_cancelDelayedSerialise_other same)

theorem Scheduler.delivered_head {message : Timed Nat}
    (delivered : scheduler.delivered = some message) :
    ∃ rest, scheduler.queue = message :: rest := by
  obtain ⟨first, _⟩ := Option.filter_eq_some_iff.mp delivered
  exact List.head?_eq_some_iff.mp first

theorem Meets.deliver (meets : Meets device scheduler deadlines) (known : Known scheduler)
    {numRegisteredPddus : UInt8} {hasBdaddr : Bool} :
    Meets device (scheduler.laterMessageHandler numRegisteredPddus hasBdaddr)
      (deadlines.next device scheduler (.deliver numRegisteredPddus hasBdaddr)) := by
  rw [Scheduler.laterMessageHandler, Deadlines.next]
  cases delivered : scheduler.delivered with
  | none =>
    rw [Option.any_none, if_neg Bool.false_ne_true]
    exact meets
  | some message =>
    rw [Option.any_some]
    dsimp only
    obtain ⟨rest, queue⟩ := Scheduler.delivered_head delivered
    have messages : scheduler.messages device = among (ownIds device) (message :: rest) := by
      rw [Scheduler.messages, queue]
    rw [queue, List.tail_cons]
    cases own : ownIds device message.id with
    | true =>
      rw [among_cons own] at messages
      have silent : among (ownIds device) rest = [] := by
        rcases meets.only with none | ⟨id, due, _, only⟩
        · rw [none] at messages
          exact absurd messages.symm (List.cons_ne_nil _ _)
        · rw [only] at messages
          exact (List.cons.inj messages).2.symm
      have served := (@of_silent device { scheduler with queue := rest } silent).serialiseDevice
        device numRegisteredPddus hasBdaddr
      rw [ite_self] at served
      rw [if_pos rfl, index_of_ownIds own]
      exact served
    | false =>
      rw [among_cons_other own] at messages
      obtain ⟨other, ofOther⟩ := known message (queue ▸ List.mem_cons_self)
      have differ : other ≠ device := fun same =>
        Bool.noConfusion (own.symm.trans (same ▸ ofOther))
      have kept : Meets device { scheduler with queue := rest } deadlines :=
        meets.of_messages_eq messages.symm
      have served := kept.serialiseDevice other numRegisteredPddus hasBdaddr
      rw [if_neg fun wrong => differ wrong.1] at served
      rw [if_neg Bool.false_ne_true, index_of_ownIds ofOther]
      exact served

theorem Meets.step (meets : Meets device scheduler deadlines) (known : Known scheduler)
    {event : Event} (honoured : Honoured device scheduler event)
    (stepped : scheduler.step event = some next) :
    Meets device next (deadlines.next device scheduler event) := by
  cases event with
  | serialiseDeviceLater other delay =>
    rw [Deadlines.next]
    by_cases same : other = device
    · subst same
      rw [if_pos rfl]
      split
      · exact meets.later_strict honoured stepped (by assumption)
      · exact meets.later_lazily honoured stepped (by assumption)
    · rw [if_neg same]
      exact meets.of_messages_eq (Scheduler.messages_serialiseDeviceLater_other same stepped)
  | pass milliseconds => exact some.inj stepped ▸ meets.of_messages_eq rfl
  | deliver numRegisteredPddus hasBdaddr => exact some.inj stepped ▸ meets.deliver known
  | serialiseDevice other numRegisteredPddus hasBdaddr =>
    exact some.inj stepped ▸ meets.serialiseDevice other numRegisteredPddus hasBdaddr
  | serialise => exact some.inj stepped ▸ Meets.of_silent rfl

def observe (device : DeviceIndex) (observed : Scheduler × Deadlines) (event : Event) :
    Option (Scheduler × Deadlines) :=
  (observed.1.step event).map fun next => (next, observed.2.next device observed.1 event)

/-- After every run of honoured calls the messages of a device are those that its deadlines ask
for. -/
theorem run_meets {events : List Event} {now : Int} {observed : Scheduler × Deadlines}
    (runs : runAllowed (observe device) (fun observed => Honoured device observed.1) events
      (⟨now, []⟩, ⟨[], []⟩) = some observed) :
    Meets device observed.1 observed.2 := by
  have start : Meets device ⟨now, []⟩ ⟨[], []⟩ ∧ Known ⟨now, []⟩ :=
    ⟨Meets.of_silent rfl, fun message member => absurd member List.not_mem_nil⟩
  have reached := Reached.run .start runs
  have kept (observed : Scheduler × Deadlines) (event : Event) (next : Scheduler × Deadlines)
      (honoured : Honoured device observed.1 event)
      (stepped : observe device observed event = some next)
      (before : Meets device observed.1 observed.2 ∧ Known observed.1) :
      Meets device next.1 next.2 ∧ Known next.1 := by
    obtain ⟨scheduler, steps, rfl⟩ := Option.map_eq_some_iff.mp stepped
    exact ⟨before.1.step before.2 honoured steps, before.2.step steps⟩
  exact (reached.invariant start kept).1

theorem deferred_meets :
    ∃ observed, runAllowed (observe 3) (fun observed => Honoured 3 observed.1)
        [.serialiseDeviceLater 3 5, .pass 4, .serialiseDeviceLater 3 5,
          .serialiseDeviceLater 3 (-2), .pass 3, .deliver 1 true, .serialiseDeviceLater 3 7]
        (⟨0, []⟩, ⟨[], []⟩) = some observed ∧
      Meets 3 observed.1 observed.2 := by
  have found : (runAllowed (observe 3) (fun observed => Honoured 3 observed.1)
      [.serialiseDeviceLater 3 5, .pass 4, .serialiseDeviceLater 3 5,
        .serialiseDeviceLater 3 (-2), .pass 3, .deliver 1 true, .serialiseDeviceLater 3 7]
      (⟨0, []⟩, ⟨[], []⟩)).isSome = true := by
    decide +kernel
  obtain ⟨observed, runs⟩ := Option.isSome_iff_exists.mp found
  exact ⟨observed, runs, run_meets runs⟩

/-- For a lazy delay of zero no message is sent. -/
theorem zero_delay_not_meets :
    ∃ next, (⟨0, []⟩ : Scheduler).step (.serialiseDeviceLater 3 0) = some next ∧
      ¬ Meets 3 next
        (Deadlines.next ⟨[], []⟩ 3 ⟨0, []⟩ (.serialiseDeviceLater 3 0)) := by
  refine ⟨⟨0, []⟩, rfl, fun meets => ?_⟩
  obtain ⟨due, only, _⟩ := meets.lazily (List.cons_ne_nil _ _) rfl
  exact List.cons_ne_nil _ _ only.symm

end Runs

end HeadsetAdk.DeviceDb
