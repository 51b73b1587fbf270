import Mathlib.Data.List.Basic

/-!
# The input event manager

A table says which messages follow from which patterns of the input bits.  Times are kept by
messages that the manager sends itself to be delivered later.
-/

namespace HeadsetAdk.InputEvents

inductive InputEventAction
  | enter
  | held
  | release
  | heldRelease
  | multiClick
deriving DecidableEq

structure InputActionMessage where
  bits : BitVec 32
  mask : BitVec 32
  action : InputEventAction
  timeout : Nat
  repeatDelay : Nat
  count : UInt16
  message : Nat
deriving DecidableEq

abbrev ActionRef := InputActionMessage × Nat

def numberOfPioBanks : Nat := 3

/-- What the manager reads of `InputEventConfig_t`. -/
structure InputEventConfig where
  pioToIemId : Nat → Int
  pioInputMask : Fin numberOfPioBanks → BitVec 32

inductive MultiClickStates
  | idle
  | counting
deriving DecidableEq

structure InputMultiClickState where
  inputEventMask : BitVec 32
  state : MultiClickStates
  nClicks : UInt16
deriving DecidableEq

/-- The messages that the manager sends itself. -/
inductive InternalMessage
  | heldTimer (inputAction : ActionRef)
  | repeatTimer
  | heldReleaseTimer (inputAction : ActionRef)
  | multiClickTimer (inputAction : ActionRef)
deriving DecidableEq

structure TimedMessage where
  due : Nat
  message : InternalMessage
deriving DecidableEq

/-- Why a message is sent to the clients. -/
inductive Cause
  | enter
  | release
  | held
  | repeated
  | heldRelease
  | multiClick
deriving DecidableEq

inductive Entry
  | bits (time : Nat) (inputEventBits : BitVec 32)
  | sent (time : Nat) (cause : Cause) (inputAction : ActionRef)
deriving DecidableEq

/-- `InputEventState_t`, with the time, the messages to be delivered, and all that happened
so far, the latest first. -/
structure InputEventState where
  inputEventBits : BitVec 32
  pioState : Fin numberOfPioBanks → BitVec 32
  repeating : Option ActionRef
  heldRelease : Option ActionRef
  multiClickState : InputMultiClickState
  now : Nat
  pending : List TimedMessage
  log : List Entry

def multiClickTimeout : Nat := 500

namespace InputEventState

/-- The state after `InputEventManagerInit`. -/
def init : InputEventState :=
  { inputEventBits := 0
    pioState := fun _ => 0
    repeating := none
    heldRelease := none
    multiClickState := ⟨0, .idle, 0⟩
    now := 0
    pending := []
    log := [] }

def messageSendLater (state : InputEventState) (message : InternalMessage) (delay : Nat) :
    InputEventState :=
  { state with pending := state.pending ++ [⟨state.now + delay, message⟩] }

def messageCancelAll (state : InputEventState) (kind : InternalMessage → Bool) :
    InputEventState :=
  { state with pending := state.pending.filter fun timed => !kind timed.message }

def messageSend (state : InputEventState) (cause : Cause) (inputAction : ActionRef) :
    InputEventState :=
  { state with log := .sent state.now cause inputAction :: state.log }

end InputEventState

namespace InternalMessage

def isHeldTimer : InternalMessage → Bool
  | heldTimer _ => true
  | _ => false

def isRepeatTimer : InternalMessage → Bool
  | repeatTimer => true
  | _ => false

def isHeldReleaseTimer : InternalMessage → Bool
  | heldReleaseTimer _ => true
  | _ => false

def isMultiClickTimer : InternalMessage → Bool
  | multiClickTimer _ => true
  | _ => false

end InternalMessage

def actionIsPress (inputEventBits : BitVec 32) (inputAction : ActionRef) : Bool :=
  decide (inputAction.1.bits = inputEventBits &&& inputAction.1.mask)

def getPreviousBitState (state : InputEventState) (inputAction : ActionRef) : Bool :=
  decide (inputAction.1.bits = state.inputEventBits &&& inputAction.1.mask)

def actionIsRelease (state : InputEventState) (inputAction : ActionRef)
    (inputEventBits : BitVec 32) : Bool :=
  getPreviousBitState state inputAction && !actionIsPress inputEventBits inputAction

section Actions

variable (state : InputEventState) (inputAction : ActionRef) (inputEventBits : BitVec 32)

/-- The repeat that follows from entering or holding. -/
def startRepeat : InputEventState :=
  { state.messageSendLater .repeatTimer inputAction.1.repeatDelay with
    repeating := some inputAction }

def enterAction : InputEventState :=
  if actionIsPress inputEventBits inputAction then
    let entered :=
      (state.messageCancelAll InternalMessage.isRepeatTimer).messageSend .enter inputAction
    if inputAction.1.repeatDelay ≠ 0 then startRepeat entered inputAction
    else { entered with repeating := none }
  else if inputAction.1.repeatDelay ≠ 0 ∧ state.repeating = some inputAction ∧
      actionIsRelease state inputAction inputEventBits then
    { state.messageCancelAll InternalMessage.isRepeatTimer with repeating := none }
  else state

def releaseAction : InputEventState :=
  if actionIsRelease state inputAction inputEventBits then
    state.messageSend .release inputAction
  else state

def heldActionButtonDownAction : InputEventState :=
  state.messageSendLater (.heldTimer inputAction) inputAction.1.timeout

def heldActionButtonReleaseAction : InputEventState :=
  if state.pending.any fun timed => timed.message.isHeldTimer then
    state.messageCancelAll InternalMessage.isHeldTimer
  else state.messageCancelAll InternalMessage.isRepeatTimer

def heldAction : InputEventState :=
  if actionIsPress inputEventBits inputAction then heldActionButtonDownAction state inputAction
  else if actionIsRelease state inputAction inputEventBits then
    heldActionButtonReleaseAction state
  else state

def heldReleaseButtonDownAction : InputEventState :=
  { state.messageSendLater (.heldReleaseTimer inputAction) inputAction.1.timeout with
    heldRelease := none }

def heldReleaseButtonReleaseAction : InputEventState :=
  let cancelled := state.messageCancelAll InternalMessage.isHeldReleaseTimer
  if cancelled.heldRelease = some inputAction then
    { cancelled with heldRelease := none }.messageSend .heldRelease inputAction
  else cancelled

def heldReleaseAction : InputEventState :=
  if actionIsPress inputEventBits inputAction then heldReleaseButtonDownAction state inputAction
  else if actionIsRelease state inputAction inputEventBits then
    heldReleaseButtonReleaseAction state inputAction
  else state

def multiClickEnd : InputEventState :=
  { state.messageCancelAll InternalMessage.isMultiClickTimer with
    multiClickState := ⟨0, .idle, 0⟩ }

def multiClickReStartTimer : InputEventState :=
  (state.messageCancelAll InternalMessage.isMultiClickTimer).messageSendLater
    (.multiClickTimer inputAction) multiClickTimeout

def multiClickCount : InputEventState :=
  { state with
    multiClickState :=
      { state.multiClickState with nClicks := state.multiClickState.nClicks + 1 } }

def multiClickStart : InputEventState :=
  multiClickReStartTimer
    { state.messageCancelAll InternalMessage.isMultiClickTimer with
      multiClickState := ⟨inputAction.1.mask, .counting, 0⟩ } inputAction

def multiClickAction : InputEventState :=
  match state.multiClickState.state with
  | .idle =>
      if actionIsPress inputEventBits inputAction then multiClickStart state inputAction
      else state
  | .counting =>
      if actionIsPress inputEventBits inputAction then
        if state.multiClickState.inputEventMask ≠ inputAction.1.mask then
          multiClickStart state inputAction
        else multiClickReStartTimer state inputAction
      else if actionIsRelease state inputAction inputEventBits then
        if state.multiClickState.inputEventMask = inputAction.1.mask then
          multiClickCount state
        else state
      else state

end Actions

/-- One action of the loop of `inputEventsChanged`, with whether a multi click was processed. -/
def processAction (inputEventBits : BitVec 32) (progress : InputEventState × Bool)
    (inputAction : ActionRef) : InputEventState × Bool :=
  let (state, multiclickProcessed) := progress
  if (state.inputEventBits ^^^ inputEventBits) &&& inputAction.1.mask ≠ 0 then
    match inputAction.1.action with
    | .enter => (enterAction state inputAction inputEventBits, multiclickProcessed)
    | .release => (releaseAction state inputAction inputEventBits, multiclickProcessed)
    | .multiClick =>
        if !multiclickProcessed then (multiClickAction state inputAction inputEventBits, true)
        else (state, multiclickProcessed)
    | .held => (heldAction state inputAction inputEventBits, multiclickProcessed)
    | .heldRelease => (heldReleaseAction state inputAction inputEventBits, multiclickProcessed)
  else (state, multiclickProcessed)

def storeBits (state : InputEventState) (inputEventBits : BitVec 32) : InputEventState :=
  { state with
    inputEventBits := inputEventBits
    log := .bits state.now inputEventBits :: state.log }

def inputEventsChanged (actionTable : List InputActionMessage) (state : InputEventState)
    (inputEventBits : BitVec 32) : InputEventState :=
  storeBits (actionTable.zipIdx.foldl (processAction inputEventBits) (state, false)).1
    inputEventBits

def calculateInputEvents (config : InputEventConfig) (state : InputEventState) : BitVec 32 :=
  (List.finRange numberOfPioBanks).foldl (fun bits bank =>
    (List.range 32).foldl (fun bits pio =>
      if (state.pioState bank).getLsbD pio then
        bits ||| (1#32 <<< (config.pioToIemId (bank.val * 32 + pio)).toNat)
      else bits) bits) 0

structure MessagePioChanged where
  bank : Fin numberOfPioBanks
  state : BitVec 32

def handleMessagePioChangedEvents (config : InputEventConfig)
    (actionTable : List InputActionMessage) (state : InputEventState)
    (mpc : MessagePioChanged) : InputEventState :=
  let pioStateMasked := mpc.state &&& config.pioInputMask mpc.bank
  if state.pioState mpc.bank ≠ pioStateMasked then
    let updated :=
      { state with
        pioState := fun bank => if bank = mpc.bank then pioStateMasked else state.pioState bank }
    inputEventsChanged actionTable updated (calculateInputEvents config updated)
  else state

def handleHeldTimer (state : InputEventState) (inputAction : ActionRef) : InputEventState :=
  let sent := ((multiClickEnd state).messageSend .held inputAction).messageCancelAll
    InternalMessage.isRepeatTimer
  if inputAction.1.repeatDelay ≠ 0 then startRepeat sent inputAction else sent

def handleRepeatTimer (state : InputEventState) : InputEventState :=
  match state.repeating with
  | none => state
  | some inputAction =>
      (state.messageSend .repeated inputAction).messageSendLater .repeatTimer
        inputAction.1.repeatDelay

def handleHeldReleaseTimer (state : InputEventState) (inputAction : ActionRef) :
    InputEventState :=
  multiClickEnd { state with heldRelease := some inputAction }

def clicksMatch (state : InputEventState) (inputAction other : ActionRef) : Bool :=
  decide (other.1.action = .multiClick) &&
    decide (other.1.count = state.multiClickState.nClicks) &&
    decide (other.1.bits = inputAction.1.bits) && decide (other.1.mask = inputAction.1.mask)

def handleMultiClickTimer (actionTable : List InputActionMessage) (state : InputEventState)
    (inputAction : ActionRef) : InputEventState :=
  multiClickEnd
    (if !actionIsPress state.inputEventBits inputAction then
      actionTable.zipIdx.foldl (fun sending other =>
        if clicksMatch state inputAction other then sending.messageSend .multiClick other
        else sending) state
    else state)

/-- `iemHandler` for the manager's own messages. -/
def handleInternal (actionTable : List InputActionMessage) (state : InputEventState) :
    InternalMessage → InputEventState
  | .heldTimer inputAction => handleHeldTimer state inputAction
  | .repeatTimer => handleRepeatTimer state
  | .heldReleaseTimer inputAction => handleHeldReleaseTimer state inputAction
  | .multiClickTimer inputAction => handleMultiClickTimer actionTable state inputAction

inductive Event
  | pioChanged (time : Nat) (mpc : MessagePioChanged)
  | deliver (index : Nat)

def step (config : InputEventConfig) (actionTable : List InputActionMessage)
    (state : InputEventState) : Event → Option InputEventState
  | .pioChanged time mpc =>
      if state.now ≤ time ∧ ∀ timed ∈ state.pending, time < timed.due then
        some (handleMessagePioChangedEvents config actionTable { state with now := time } mpc)
      else none
  | .deliver index =>
      match state.pending[index]? with
      | none => none
      | some timed =>
          if ∀ other ∈ state.pending, timed.due ≤ other.due then
            some (handleInternal actionTable
              { state with
                now := timed.due
                pending := state.pending.eraseIdx index } timed.message)
          else none

end HeadsetAdk.InputEvents
