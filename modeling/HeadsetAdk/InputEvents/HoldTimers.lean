import HeadsetAdk.InputEvents.InputEventManager

/-! # What touches the hold timers -/

namespace HeadsetAdk.InputEvents

open InputEventState
open InternalMessage (heldTimer isHeldReleaseTimer isMultiClickTimer isRepeatTimer)

def heldDue (pending : List TimedMessage) (inputAction : ActionRef) : List Nat :=
  pending.filterMap fun timed =>
    if timed.message = .heldTimer inputAction then some timed.due else none

/-- The entry is a message to the clients, but not one for holding. -/
def Entry.Other : Entry → Prop
  | .bits _ _ => False
  | .sent _ cause _ => cause ≠ .held

structure Calm (state next : InputEventState) : Prop where
  now : next.now = state.now
  bits : next.inputEventBits = state.inputEventBits
  log : ∃ entries, next.log = entries ++ state.log ∧ ∀ entry ∈ entries, entry.Other
  due : ∀ timed ∈ next.pending, timed ∈ state.pending ∨ state.now ≤ timed.due

/-- Besides, the hold timers stay as they are. -/
structure Quiet (state next : InputEventState) : Prop extends Calm state next where
  timers : ∀ inputAction, heldDue next.pending inputAction = heldDue state.pending inputAction

variable {state middle next : InputEventState} {inputAction : ActionRef}

theorem Calm.refl (state : InputEventState) : Calm state state :=
  ⟨rfl, rfl, ⟨[], rfl, nofun⟩, fun _ member => Or.inl member⟩

theorem Calm.trans (first : Calm state middle) (second : Calm middle next) : Calm state next := by
  obtain ⟨entries, log, other⟩ := first.log
  obtain ⟨entries', log', other'⟩ := second.log
  refine ⟨second.now.trans first.now, second.bits.trans first.bits,
    ⟨entries' ++ entries, by rw [log', log, List.append_assoc], ?_⟩, ?_⟩
  · intro entry member
    cases List.mem_append.mp member with
    | inl member => exact other' entry member
    | inr member => exact other entry member
  · intro timed member
    cases second.due timed member with
    | inl member => exact first.due timed member
    | inr late => exact Or.inr (first.now ▸ late)

theorem Quiet.refl (state : InputEventState) : Quiet state state :=
  ⟨Calm.refl state, fun _ => rfl⟩

theorem Quiet.trans (first : Quiet state middle) (second : Quiet middle next) : Quiet state next :=
  ⟨first.toCalm.trans second.toCalm, fun inputAction =>
    (second.timers inputAction).trans (first.timers inputAction)⟩

theorem heldDue_append (pending later : List TimedMessage) (inputAction : ActionRef) :
    heldDue (pending ++ later) inputAction =
      heldDue pending inputAction ++ heldDue later inputAction :=
  List.filterMap_append

theorem heldDue_singleton (timed : TimedMessage) (inputAction : ActionRef) :
    heldDue [timed] inputAction =
      if timed.message = .heldTimer inputAction then [timed.due] else [] := by
  by_cases own : timed.message = .heldTimer inputAction
  · rw [if_pos own]
    exact List.filterMap_cons_some (if_pos own)
  · rw [if_neg own]
    exact List.filterMap_cons_none (if_neg own)

theorem calm_messageSendLater (state : InputEventState) (message : InternalMessage)
    (delay : Nat) : Calm state (state.messageSendLater message delay) := by
  refine ⟨rfl, rfl, ⟨[], rfl, nofun⟩, fun timed member => ?_⟩
  refine (List.mem_append.mp member).imp_right fun member => ?_
  rw [List.mem_singleton.mp member]
  exact Nat.le_add_right _ _

theorem quiet_messageSendLater {message : InternalMessage}
    (other : message.isHeldTimer = false) (delay : Nat) :
    Quiet state (state.messageSendLater message delay) := by
  refine ⟨calm_messageSendLater state message delay, fun inputAction => ?_⟩
  have foreign : message ≠ .heldTimer inputAction := by
    intro same
    rw [same] at other
    contradiction
  rw [messageSendLater, heldDue_append, heldDue_singleton, if_neg foreign, List.append_nil]

theorem calm_messageCancelAll (state : InputEventState) (kind : InternalMessage → Bool) :
    Calm state (state.messageCancelAll kind) :=
  ⟨rfl, rfl, ⟨[], rfl, nofun⟩, fun _ member => Or.inl (List.mem_of_mem_filter member)⟩

theorem quiet_messageCancelAll {kind : InternalMessage → Bool}
    (other : ∀ inputAction, kind (.heldTimer inputAction) = false) :
    Quiet state (state.messageCancelAll kind) := by
  refine ⟨calm_messageCancelAll state kind, fun inputAction => ?_⟩
  rw [messageCancelAll, heldDue, heldDue, List.filterMap_filter]
  refine List.filterMap_congr fun timed _ => ?_
  by_cases same : timed.message = .heldTimer inputAction
  · rw [same, other]
    rfl
  · rw [if_neg same]
    split
    · rfl
    · rfl

theorem quiet_messageSend (state : InputEventState) {cause : Cause} (other : cause ≠ .held)
    (inputAction : ActionRef) : Quiet state (state.messageSend cause inputAction) :=
  ⟨⟨rfl, rfl, ⟨[.sent state.now cause inputAction], rfl,
      fun _ member => List.mem_singleton.mp member ▸ other⟩,
    fun _ member => Or.inl member⟩, fun _ => rfl⟩

theorem heldDue_cancelled (state : InputEventState) (inputAction : ActionRef) :
    heldDue (state.messageCancelAll InternalMessage.isHeldTimer).pending inputAction = [] := by
  rw [heldDue, List.filterMap_eq_nil_iff]
  intro timed member
  refine if_neg fun same => ?_
  have kept := (List.mem_filter.mp member).2
  rw [same] at kept
  contradiction

section Actions

variable (state) (inputAction) (inputEventBits : BitVec 32)

theorem quiet_startRepeat : Quiet state (startRepeat state inputAction) := by
  have started : Quiet state
      (state.messageSendLater .repeatTimer inputAction.1.repeatDelay) :=
    quiet_messageSendLater rfl _
  exact ⟨{ started with }, started.timers⟩

theorem quiet_cancelRepeat : Quiet state (state.messageCancelAll isRepeatTimer) :=
  quiet_messageCancelAll fun _ => rfl

theorem quiet_enterAction : Quiet state (enterAction state inputAction inputEventBits) := by
  rw [enterAction]
  split
  · have entered : Quiet state
        ((state.messageCancelAll isRepeatTimer).messageSend .enter
          inputAction) :=
      (quiet_cancelRepeat state).trans (quiet_messageSend _ (by decide) inputAction)
    dsimp only
    split
    · exact entered.trans (quiet_startRepeat _ inputAction)
    · exact ⟨{ entered with }, entered.timers⟩
  · split
    · have cancelled := quiet_cancelRepeat state
      exact ⟨{ cancelled with }, cancelled.timers⟩
    · exact Quiet.refl state

theorem quiet_releaseAction : Quiet state (releaseAction state inputAction inputEventBits) := by
  rw [releaseAction]
  split
  · exact quiet_messageSend state (by decide) inputAction
  · exact Quiet.refl state

theorem quiet_heldReleaseAction :
    Quiet state (heldReleaseAction state inputAction inputEventBits) := by
  rw [heldReleaseAction]
  split
  · have started : Quiet state
        (state.messageSendLater (.heldReleaseTimer inputAction) inputAction.1.timeout) :=
      quiet_messageSendLater rfl _
    exact ⟨{ started with }, started.timers⟩
  · split
    · have cancelled : Quiet state
          (state.messageCancelAll isHeldReleaseTimer) :=
        quiet_messageCancelAll fun _ => rfl
      rw [heldReleaseButtonReleaseAction]
      split
      · have cleared : Quiet state
            { state.messageCancelAll isHeldReleaseTimer with
              heldRelease := none } :=
          ⟨{ cancelled with }, cancelled.timers⟩
        exact cleared.trans (quiet_messageSend _ (by decide) inputAction)
      · exact cancelled
    · exact Quiet.refl state

theorem quiet_multiClickEnd : Quiet state (multiClickEnd state) := by
  have cancelled : Quiet state (state.messageCancelAll isMultiClickTimer) :=
    quiet_messageCancelAll fun _ => rfl
  exact ⟨{ cancelled with }, cancelled.timers⟩

theorem quiet_multiClickReStartTimer : Quiet state (multiClickReStartTimer state inputAction) := by
  have cancelled : Quiet state (state.messageCancelAll isMultiClickTimer) :=
    quiet_messageCancelAll fun _ => rfl
  exact cancelled.trans (quiet_messageSendLater rfl _)

theorem quiet_multiClickStart : Quiet state (multiClickStart state inputAction) := by
  have cancelled : Quiet state (state.messageCancelAll isMultiClickTimer) :=
    quiet_messageCancelAll fun _ => rfl
  have counting : Quiet state
      { state.messageCancelAll isMultiClickTimer with
        multiClickState := ⟨inputAction.1.mask, .counting, 0⟩ } :=
    ⟨{ cancelled with }, cancelled.timers⟩
  exact counting.trans (quiet_multiClickReStartTimer _ inputAction)

theorem quiet_multiClickAction :
    Quiet state (multiClickAction state inputAction inputEventBits) := by
  rw [multiClickAction]
  split
  · split
    · exact quiet_multiClickStart state inputAction
    · exact Quiet.refl state
  · split
    · split
      · exact quiet_multiClickStart state inputAction
      · exact quiet_multiClickReStartTimer state inputAction
    · split
      · split
        · exact ⟨⟨rfl, rfl, ⟨[], rfl, nofun⟩, fun _ member => Or.inl member⟩, fun _ => rfl⟩
        · exact Quiet.refl state
      · exact Quiet.refl state

end Actions

section Holding

def presses (old new : BitVec 32) (inputAction : ActionRef) : Bool :=
  decide (inputAction.1.action = .held) && !actionIsPress old inputAction &&
    actionIsPress new inputAction

def releases (old new : BitVec 32) (inputAction : ActionRef) : Bool :=
  decide (inputAction.1.action = .held) && actionIsPress old inputAction &&
    !actionIsPress new inputAction

private theorem xor_and (old new mask : BitVec 32) :
    (old ^^^ new) &&& mask = (old &&& mask) ^^^ (new &&& mask) := by
  apply BitVec.eq_of_getLsbD_eq
  intro index _
  rw [BitVec.getLsbD_and, BitVec.getLsbD_xor, BitVec.getLsbD_xor, BitVec.getLsbD_and,
    BitVec.getLsbD_and]
  cases mask.getLsbD index with
  | false => rw [Bool.and_false, Bool.and_false, Bool.and_false, Bool.false_xor]
  | true => rw [Bool.and_true, Bool.and_true, Bool.and_true]

variable {old new : BitVec 32}

private theorem unchanged_iff {mask : BitVec 32} :
    (old ^^^ new) &&& mask = 0 ↔ old &&& mask = new &&& mask := by
  rw [xor_and]
  exact BitVec.xor_eq_zero_iff

theorem actionIsPress_unchanged (unchanged : (old ^^^ new) &&& inputAction.1.mask = 0) :
    actionIsPress old inputAction = actionIsPress new inputAction := by
  rw [actionIsPress, actionIsPress, unchanged_iff.mp unchanged]

theorem not_pressed_before (changed : (old ^^^ new) &&& inputAction.1.mask ≠ 0)
    (press : actionIsPress new inputAction = true) : actionIsPress old inputAction = false := by
  by_contra before
  rw [Bool.not_eq_false] at before
  have after : inputAction.1.bits = new &&& inputAction.1.mask := of_decide_eq_true press
  have before : inputAction.1.bits = old &&& inputAction.1.mask := of_decide_eq_true before
  exact changed (unchanged_iff.mpr (before.symm.trans after))

theorem calm_heldAction (state : InputEventState) (inputAction : ActionRef)
    (inputEventBits : BitVec 32) :
    Calm state (heldAction state inputAction inputEventBits) := by
  rw [heldAction]
  split
  · exact calm_messageSendLater state _ _
  · split
    · rw [heldActionButtonReleaseAction]
      split
      · exact calm_messageCancelAll state _
      · exact calm_messageCancelAll state _
    · exact Calm.refl state

theorem heldDue_heldAction (state : InputEventState) (other : ActionRef)
    (inputEventBits : BitVec 32) (inputAction : ActionRef) :
    heldDue (heldAction state other inputEventBits).pending inputAction =
      if actionIsPress inputEventBits other then
        heldDue state.pending inputAction ++
          if other = inputAction then [state.now + other.1.timeout] else []
      else if actionIsPress state.inputEventBits other then []
      else heldDue state.pending inputAction := by
  rw [heldAction]
  by_cases press : actionIsPress inputEventBits other = true
  · rw [if_pos press, if_pos press, heldActionButtonDownAction, messageSendLater,
      heldDue_append, heldDue_singleton]
    by_cases same : other = inputAction
    · rw [if_pos same, if_pos (congrArg heldTimer same)]
    · rw [if_neg same, if_neg fun equal => same (heldTimer.inj equal)]
  · have release : actionIsRelease state other inputEventBits =
        actionIsPress state.inputEventBits other := by
      rw [actionIsRelease, getPreviousBitState, Bool.eq_false_iff.mpr press, actionIsPress]
      exact Bool.and_true _
    rw [if_neg press, if_neg press, release]
    split
    · rw [heldActionButtonReleaseAction]
      split
      · exact heldDue_cancelled state inputAction
      · rename_i absent
        rw [(quiet_cancelRepeat state).timers]
        rw [heldDue, List.filterMap_eq_nil_iff]
        intro timed member
        refine if_neg fun same => absent ?_
        rw [List.any_eq_true]
        exact ⟨timed, member, by rw [same]; rfl⟩
    · rfl

end Holding

section Loop

variable {new : BitVec 32}

theorem calm_processAction (new : BitVec 32) (progress : InputEventState × Bool)
    (other : ActionRef) : Calm progress.1 (processAction new progress other).1 := by
  obtain ⟨state, processed⟩ := progress
  rw [processAction]
  dsimp only
  split
  · split
    · exact (quiet_enterAction state other new).toCalm
    · exact (quiet_releaseAction state other new).toCalm
    · split
      · exact (quiet_multiClickAction state other new).toCalm
      · exact Calm.refl state
    · exact calm_heldAction state other new
    · exact (quiet_heldReleaseAction state other new).toCalm
  · exact Calm.refl state

/-- The hold timers of an action after one step of the loop. -/
theorem heldDue_processAction (new : BitVec 32) (progress : InputEventState × Bool)
    (other inputAction : ActionRef) :
    heldDue (processAction new progress other).1.pending inputAction =
      if releases progress.1.inputEventBits new other then []
      else heldDue progress.1.pending inputAction ++
        if presses progress.1.inputEventBits new other = true ∧ other = inputAction then
          [progress.1.now + other.1.timeout]
        else [] := by
  obtain ⟨state, processed⟩ := progress
  have quiet {next : InputEventState} (kind : other.1.action ≠ .held) (same : Quiet state next) :
      heldDue next.pending inputAction = if releases state.inputEventBits new other then []
        else heldDue state.pending inputAction ++
          if presses state.inputEventBits new other = true ∧ other = inputAction then
            [state.now + other.1.timeout]
          else [] := by
    rw [releases, presses, decide_eq_false kind, Bool.false_and, Bool.false_and, Bool.false_and,
      Bool.false_and, if_neg Bool.false_ne_true, if_neg (fun both => Bool.false_ne_true both.1),
      List.append_nil]
    exact same.timers inputAction
  rw [processAction]
  dsimp only
  split
  · rename_i changed
    split
    · rename_i kind
      exact quiet (by rw [kind]; decide) (quiet_enterAction state other new)
    · rename_i kind
      exact quiet (by rw [kind]; decide) (quiet_releaseAction state other new)
    · rename_i kind
      split
      · exact quiet (by rw [kind]; decide) (quiet_multiClickAction state other new)
      · exact quiet (by rw [kind]; decide) (Quiet.refl state)
    · rename_i kind
      dsimp only
      rw [heldDue_heldAction, releases, presses, decide_eq_true kind, Bool.true_and, Bool.true_and]
      by_cases press : actionIsPress new other = true
      · rw [if_pos press, press, not_pressed_before changed press]
        by_cases same : other = inputAction
        · rw [if_pos same, Bool.not_true, Bool.and_false, if_neg Bool.false_ne_true,
            if_pos ⟨rfl, same⟩]
        · rw [if_neg same, Bool.not_true, Bool.and_false, if_neg Bool.false_ne_true,
            if_neg (fun both => same both.2)]
      · rw [if_neg press, Bool.eq_false_iff.mpr press, Bool.not_false, Bool.and_true,
          Bool.and_false]
        split
        · rfl
        · rw [if_neg fun both : false = true ∧ other = inputAction =>
            Bool.false_ne_true both.1, List.append_nil]
    · rename_i kind
      exact quiet (by rw [kind]; decide) (quiet_heldReleaseAction state other new)
  · rename_i unchanged
    have same := actionIsPress_unchanged (not_not.mp unchanged)
    dsimp only
    rw [releases, presses, same]
    have neither : (decide (other.1.action = InputEventAction.held) && actionIsPress new other &&
        !actionIsPress new other) = false := by
      cases decide (other.1.action = InputEventAction.held) <;>
        cases actionIsPress new other <;> rfl
    have neither' : (decide (other.1.action = InputEventAction.held) &&
        !actionIsPress new other && actionIsPress new other) = false := by
      cases decide (other.1.action = InputEventAction.held) <;>
        cases actionIsPress new other <;> rfl
    rw [neither, neither', if_neg Bool.false_ne_true,
      if_neg (fun both => Bool.false_ne_true both.1), List.append_nil]

theorem calm_loop (new : BitVec 32) (others : List ActionRef)
    (progress : InputEventState × Bool) :
    Calm progress.1 (others.foldl (processAction new) progress).1 := by
  induction others generalizing progress with
  | nil => exact Calm.refl progress.1
  | cons other others ih =>
    exact (calm_processAction new progress other).trans (ih (processAction new progress other))

theorem heldDue_loop {others : List ActionRef} (progress : InputEventState × Bool)
    (absent : ∀ other ∈ others,
      ¬ (presses progress.1.inputEventBits new other = true ∧ other = inputAction)) :
    heldDue (others.foldl (processAction new) progress).1.pending inputAction =
      if others.any (releases progress.1.inputEventBits new) then []
      else heldDue progress.1.pending inputAction := by
  induction others generalizing progress with
  | nil => rfl
  | cons other others ih =>
    have bits := (calm_processAction new progress other).bits
    have rest := ih (processAction new progress other) (by
      rw [bits]
      exact fun other' member => absent other' (List.mem_cons_of_mem other member))
    rw [List.foldl_cons, rest, bits, heldDue_processAction,
      if_neg (absent other List.mem_cons_self), List.append_nil, List.any_cons]
    cases releases progress.1.inputEventBits new other with
    | false => rw [Bool.false_or, if_neg Bool.false_ne_true]
    | true =>
      rw [Bool.true_or, if_pos rfl]
      split
      · rfl
      · rfl

end Loop

end HeadsetAdk.InputEvents
