import HeadsetAdk.InputEvents.HoldTimers
import Mathlib.Data.List.Nodup

/-! # Hold detection -/

namespace HeadsetAdk.InputEvents

open InputEventState

/-- A period during which a pattern stays asserted.  It is disturbed if it began without a change
of the inputs, or if an action for holding is released before the timeout, in the change it
began with only behind the action in the table. -/
structure Period where
  start : Nat
  sends : Nat
  disturbed : Bool
deriving DecidableEq

section Periods

def lastBits : List Entry → BitVec 32
  | [] => 0
  | .bits _ new :: _ => new
  | .sent _ _ _ :: log => lastBits log

variable (actionTable : List InputActionMessage) (inputAction : ActionRef)

def underWay : List Entry → Option Period
  | [] => if actionIsPress 0 inputAction then some ⟨0, 0, true⟩ else none
  | .bits time new :: log =>
      if actionIsPress new inputAction then
        match underWay log with
        | some period =>
            some
              { period with
                disturbed := period.disturbed ||
                  (decide (time < period.start + inputAction.1.timeout) &&
                    actionTable.zipIdx.any (releases (lastBits log) new)) }
        | none =>
            some
              { start := time
                sends := 0
                disturbed := (actionTable.zipIdx.drop (inputAction.2 + 1)).any
                  (releases (lastBits log) new) }
      else none
  | .sent _ cause other :: log =>
      if cause = .held ∧ other = inputAction then
        (underWay log).map fun period => { period with sends := period.sends + 1 }
      else underWay log

def ended : List Entry → List (Period × Nat)
  | [] => []
  | .bits time new :: log =>
      if actionIsPress new inputAction then ended log
      else
        match underWay actionTable inputAction log with
        | some period => (period, time) :: ended log
        | none => ended log
  | .sent _ _ _ :: log => ended log

def NoStray : List Entry → Prop
  | [] => True
  | .bits _ _ :: log => NoStray log
  | .sent _ cause other :: log =>
      (cause = .held → other = inputAction → (underWay actionTable inputAction log).isSome) ∧
        NoStray log

/-- Every period that lasts for the timeout has one message for holding, no shorter one has
any, and there are no others. -/
structure HoldDetected (log : List Entry) (now : Nat) : Prop where
  ended : ∀ entry ∈ ended actionTable inputAction log,
    entry.1.sends = if entry.1.start + inputAction.1.timeout ≤ entry.2 then 1 else 0
  current : ∀ period ∈ underWay actionTable inputAction log, period.sends ≤ 1 ∧
    (period.sends = 1 → period.start + inputAction.1.timeout ≤ now) ∧
    (period.start + inputAction.1.timeout < now → period.sends = 1)
  stray : NoStray actionTable inputAction log

structure Undisturbed (log : List Entry) (now : Nat) : Prop where
  ended : ∀ entry ∈ ended actionTable inputAction log,
    entry.1.start + inputAction.1.timeout ≤ entry.2 → entry.1.disturbed = false
  current : ∀ period ∈ underWay actionTable inputAction log,
    period.start + inputAction.1.timeout < now → period.disturbed = false

end Periods

variable {actionTable : List InputActionMessage} {inputAction : ActionRef}

section

variable {entry : Entry} (other : entry.Other) (log : List Entry)

include other log

theorem Entry.Other.lastBits : lastBits (entry :: log) = lastBits log := by
  cases entry with
  | bits => exact other.elim
  | sent => rfl

theorem Entry.Other.underWay :
    underWay actionTable inputAction (entry :: log) = underWay actionTable inputAction log := by
  cases entry with
  | bits => exact other.elim
  | sent time cause sent => exact if_neg fun both => other both.1

theorem Entry.Other.ended :
    ended actionTable inputAction (entry :: log) = ended actionTable inputAction log := by
  cases entry with
  | bits => exact other.elim
  | sent => rfl

theorem Entry.Other.noStray :
    NoStray actionTable inputAction (entry :: log) ↔ NoStray actionTable inputAction log := by
  cases entry with
  | bits => exact other.elim
  | sent time cause sent => exact and_iff_right fun held => absurd held other

end

theorem others_append (actionTable : List InputActionMessage) (inputAction : ActionRef)
    {entries : List Entry} (others : ∀ entry ∈ entries, entry.Other) (log : List Entry) :
    lastBits (entries ++ log) = lastBits log ∧
      underWay actionTable inputAction (entries ++ log) = underWay actionTable inputAction log ∧
      ended actionTable inputAction (entries ++ log) = ended actionTable inputAction log ∧
      (NoStray actionTable inputAction (entries ++ log) ↔ NoStray actionTable inputAction log) := by
  induction entries with
  | nil => exact ⟨rfl, rfl, rfl, Iff.rfl⟩
  | cons entry entries ih =>
    have other := others entry List.mem_cons_self
    obtain ⟨bits, period, periods, stray⟩ :=
      ih fun later member => others later (List.mem_cons_of_mem entry member)
    rw [List.cons_append, other.lastBits, other.underWay, other.ended, other.noStray]
    exact ⟨bits, period, periods, stray⟩

theorem underWay_isSome (log : List Entry) :
    (underWay actionTable inputAction log).isSome = actionIsPress (lastBits log) inputAction := by
  induction log with
  | nil =>
    rw [underWay, lastBits]
    cases actionIsPress 0 inputAction <;> rfl
  | cons entry log ih =>
    cases entry with
    | bits time new =>
      rw [underWay, lastBits]
      cases actionIsPress new inputAction with
      | false => rfl
      | true =>
        rw [if_pos rfl]
        split
        · rfl
        · rfl
    | sent time cause other =>
      rw [underWay, lastBits, ← ih]
      split
      · rw [Option.isSome_map]
      · rfl

section Changes

theorem zipIdx_split (member : inputAction ∈ actionTable.zipIdx) :
    ∃ before, actionTable.zipIdx =
        before ++ inputAction :: actionTable.zipIdx.drop (inputAction.2 + 1) ∧
      inputAction ∉ before ∧ inputAction ∉ actionTable.zipIdx.drop (inputAction.2 + 1) := by
  obtain ⟨index, inside, here⟩ := List.mem_iff_getElem.mp member
  have place : inputAction.2 = index := by
    rw [← here, List.getElem_zipIdx, Nat.zero_add]
  have split : actionTable.zipIdx = actionTable.zipIdx.take index ++
      inputAction :: actionTable.zipIdx.drop (index + 1) := by
    rw [← here, ← List.drop_eq_getElem_cons inside, List.take_append_drop]
  have once : actionTable.zipIdx.Nodup := by
    refine List.Nodup.of_map Prod.snd ?_
    rw [List.zipIdx_map_snd]
    exact List.nodup_range'
  rw [place]
  rw [split] at once
  obtain ⟨-, tail, apart⟩ := List.nodup_append.mp once
  exact ⟨_, split, fun early => apart inputAction early inputAction List.mem_cons_self rfl,
    (List.nodup_cons.mp tail).1⟩

variable {state : InputEventState} {new : BitVec 32}

theorem heldDue_pressed (member : inputAction ∈ actionTable.zipIdx)
    (presses : presses state.inputEventBits new inputAction = true)
    (idle : heldDue state.pending inputAction = []) :
    heldDue (inputEventsChanged actionTable state new).pending inputAction =
      if (actionTable.zipIdx.drop (inputAction.2 + 1)).any
        (releases state.inputEventBits new) then []
      else [state.now + inputAction.1.timeout] := by
  obtain ⟨before, split, early, late⟩ := zipIdx_split member
  have first := calm_loop new before (state, false)
  have here := calm_processAction new (before.foldl (processAction new) (state, false))
    inputAction
  have elsewhere {others : List ActionRef} (absent : inputAction ∉ others)
      (old : BitVec 32) : ∀ other ∈ others,
        ¬ (InputEvents.presses old new other = true ∧ other = inputAction) :=
    fun _ member both => absent (both.2 ▸ member)
  have notReleased : releases state.inputEventBits new inputAction = false := by
    rw [InputEvents.presses, Bool.and_eq_true, Bool.and_eq_true] at presses
    rw [releases, presses.2, Bool.not_true, Bool.and_false]
  have started : heldDue (processAction new
      (before.foldl (processAction new) (state, false)) inputAction).1.pending inputAction =
      [state.now + inputAction.1.timeout] := by
    rw [heldDue_processAction, first.bits, first.now, notReleased,
      if_neg Bool.false_ne_true, if_pos ⟨presses, rfl⟩,
      heldDue_loop _ (elsewhere early _), idle]
    split
    · rfl
    · rfl
  rw [inputEventsChanged, storeBits]
  dsimp only
  rw [split, List.foldl_append, List.foldl_cons, ← split,
    heldDue_loop _ (elsewhere late _), here.bits, first.bits, started]

theorem heldDue_unpressed (absent : presses state.inputEventBits new inputAction = false) :
    heldDue (inputEventsChanged actionTable state new).pending inputAction =
      if actionTable.zipIdx.any (releases state.inputEventBits new) then []
      else heldDue state.pending inputAction := by
  rw [inputEventsChanged, storeBits]
  dsimp only
  rw [heldDue_loop]
  rintro other - ⟨pressed, rfl⟩
  rw [absent] at pressed
  contradiction

theorem calm_changed (actionTable : List InputActionMessage) (state : InputEventState)
    (new : BitVec 32) :
    Calm state (actionTable.zipIdx.foldl (processAction new) (state, false)).1 :=
  calm_loop new actionTable.zipIdx (state, false)

end Changes

section Tracking

structure Tracked (actionTable : List InputActionMessage) (inputAction : ActionRef)
    (state : InputEventState) : Prop where
  bits : lastBits state.log = state.inputEventBits
  due : ∀ timed ∈ state.pending, state.now ≤ timed.due
  ended : ∀ entry ∈ ended actionTable inputAction state.log, entry.1.sends =
      if entry.1.start + inputAction.1.timeout ≤ entry.2 ∧ entry.1.disturbed = false then 1
      else 0
  stray : NoStray actionTable inputAction state.log
  idle : underWay actionTable inputAction state.log = none →
    heldDue state.pending inputAction = []
  current : ∀ period, underWay actionTable inputAction state.log = some period →
    (period.disturbed = true ∧ heldDue state.pending inputAction = [] ∧ period.sends = 0) ∨
    (period.disturbed = false ∧
      heldDue state.pending inputAction = [period.start + inputAction.1.timeout] ∧
      period.sends = 0) ∨
    (period.disturbed = false ∧ heldDue state.pending inputAction = [] ∧ period.sends = 1 ∧
      period.start + inputAction.1.timeout ≤ state.now)

theorem mem_of_heldDue {pending : List TimedMessage} {due : Nat}
    (member : due ∈ heldDue pending inputAction) :
    ∃ timed ∈ pending, timed.due = due ∧ timed.message = .heldTimer inputAction := by
  obtain ⟨timed, member, shown⟩ := List.mem_filterMap.mp member
  split at shown
  · rename_i own
    exact ⟨timed, member, Option.some.inj shown, own⟩
  · contradiction

theorem Tracked.init (actionTable : List InputActionMessage) (inputAction : ActionRef) :
    Tracked actionTable inputAction InputEventState.init := by
  constructor
  · rfl
  · nofun
  · nofun
  · trivial
  · exact fun _ => rfl
  · intro period here
    change (if actionIsPress 0 inputAction then some (⟨0, 0, true⟩ : Period) else none) =
      some period at here
    split at here
    · rw [← Option.some.inj here]
      exact Or.inl ⟨rfl, rfl, rfl⟩
    · contradiction

variable {state next : InputEventState}

theorem Tracked.keep (tracked : Tracked actionTable inputAction state)
    (bits : next.inputEventBits = state.inputEventBits)
    (log : ∃ entries, next.log = entries ++ state.log ∧ ∀ entry ∈ entries, entry.Other)
    (timers : heldDue next.pending inputAction = heldDue state.pending inputAction)
    (later : state.now ≤ next.now) (due : ∀ timed ∈ next.pending, next.now ≤ timed.due) :
    Tracked actionTable inputAction next := by
  obtain ⟨entries, log, others⟩ := log
  obtain ⟨last, period, periods, stray⟩ := others_append actionTable inputAction others state.log
  rw [← log] at last period periods stray
  constructor
  · rw [last, tracked.bits, bits]
  · exact due
  · rw [periods]
    exact tracked.ended
  · exact stray.mpr tracked.stray
  · rw [period, timers]
    exact tracked.idle
  · rw [period, timers]
    intro current here
    rcases tracked.current current here with disturbed | waiting | ⟨calm, nothing, sent, passed⟩
    · exact Or.inl disturbed
    · exact Or.inr (Or.inl waiting)
    · exact Or.inr (Or.inr ⟨calm, nothing, sent, Nat.le_trans passed later⟩)

theorem Tracked.quiet (tracked : Tracked actionTable inputAction state)
    (quiet : Quiet state next) : Tracked actionTable inputAction next := by
  refine tracked.keep quiet.bits quiet.log (quiet.timers inputAction)
    (Nat.le_of_eq quiet.now.symm) fun timed member => ?_
  rw [quiet.now]
  cases quiet.due timed member with
  | inl member => exact tracked.due timed member
  | inr late => exact late

section Changing

variable {new : BitVec 32}

private theorem changed_due (actionTable : List InputActionMessage)
    (due : ∀ timed ∈ state.pending, state.now < timed.due) (new : BitVec 32) :
    ∀ timed ∈ (inputEventsChanged actionTable state new).pending,
      (inputEventsChanged actionTable state new).now ≤ timed.due := by
  have calm := calm_changed actionTable state new
  intro timed member
  rw [inputEventsChanged, storeBits] at member ⊢
  dsimp only at member ⊢
  rw [calm.now]
  cases calm.due timed member with
  | inl member => exact Nat.le_of_lt (due timed member)
  | inr late => exact late

theorem presses_eq (held : inputAction.1.action = .held) (old new : BitVec 32) :
    presses old new inputAction =
      (!actionIsPress old inputAction && actionIsPress new inputAction) := by
  rw [presses, decide_eq_true held, Bool.true_and]

theorem heldDue_released (member : inputAction ∈ actionTable.zipIdx)
    (held : inputAction.1.action = .held)
    (before : actionIsPress state.inputEventBits inputAction = true)
    (after : actionIsPress new inputAction = false) :
    heldDue (inputEventsChanged actionTable state new).pending inputAction = [] := by
  have released : actionTable.zipIdx.any (releases state.inputEventBits new) = true := by
    rw [List.any_eq_true]
    refine ⟨inputAction, member, ?_⟩
    rw [releases, decide_eq_true held, before, after]
    rfl
  rw [heldDue_unpressed, released, if_pos rfl]
  rw [presses_eq held, after, Bool.and_false]

theorem waits_of_due (due : ∀ timed ∈ state.pending, state.now < timed.due) {period : Period}
    (one : heldDue state.pending inputAction = [period.start + inputAction.1.timeout]) :
    state.now < period.start + inputAction.1.timeout := by
  obtain ⟨timed, member, same, -⟩ := mem_of_heldDue (by rw [one]; exact List.mem_cons_self)
  rw [← same]
  exact due timed member

section

variable (tracked : Tracked actionTable inputAction state)

include tracked

private theorem changed_log (new : BitVec 32) :
    ∃ log, (inputEventsChanged actionTable state new).log = .bits state.now new :: log ∧
      lastBits log = state.inputEventBits ∧
      underWay actionTable inputAction log = underWay actionTable inputAction state.log ∧
      ended actionTable inputAction log = ended actionTable inputAction state.log ∧
      NoStray actionTable inputAction log := by
  have calm := calm_changed actionTable state new
  obtain ⟨entries, log, others⟩ := calm.log
  obtain ⟨last, period, periods, stray⟩ := others_append actionTable inputAction others state.log
  refine ⟨_, ?_, last.trans tracked.bits, period, periods, stray.mpr tracked.stray⟩
  rw [inputEventsChanged, storeBits]
  dsimp only
  rw [log, calm.now]

theorem Tracked.underWay_isSome :
    (underWay actionTable inputAction state.log).isSome =
      actionIsPress state.inputEventBits inputAction := by
  rw [InputEvents.underWay_isSome, tracked.bits]

/-- What is left to show of a change: that a period it ends had its message, and what the timers
are afterwards. -/
theorem Tracked.of_changed (due : ∀ timed ∈ state.pending, state.now < timed.due)
    (ends : actionIsPress new inputAction = false → ∀ period,
      underWay actionTable inputAction state.log = some period → period.sends =
        if period.start + inputAction.1.timeout ≤ state.now ∧ period.disturbed = false then 1
        else 0)
    (idle : actionIsPress new inputAction = false →
      heldDue (inputEventsChanged actionTable state new).pending inputAction = [])
    (current : actionIsPress new inputAction = true → ∀ log period,
      lastBits log = state.inputEventBits →
      underWay actionTable inputAction log = underWay actionTable inputAction state.log →
      underWay actionTable inputAction (.bits state.now new :: log) = some period →
        (period.disturbed = true ∧
          heldDue (inputEventsChanged actionTable state new).pending inputAction = [] ∧
          period.sends = 0) ∨
        (period.disturbed = false ∧
          heldDue (inputEventsChanged actionTable state new).pending inputAction =
            [period.start + inputAction.1.timeout] ∧ period.sends = 0) ∨
        (period.disturbed = false ∧
          heldDue (inputEventsChanged actionTable state new).pending inputAction = [] ∧
          period.sends = 1 ∧ period.start + inputAction.1.timeout ≤ state.now)) :
    Tracked actionTable inputAction (inputEventsChanged actionTable state new) := by
  obtain ⟨log, log_eq, last, period, periods, stray⟩ := changed_log tracked new
  constructor
  · rw [log_eq]
    rfl
  · exact changed_due actionTable due new
  · rw [log_eq, ended.eq_def]
    dsimp only
    rw [period, periods]
    split
    · exact tracked.ended
    · next released =>
      split
      · next current here =>
        intro entry entered
        rcases List.mem_cons.mp entered with rfl | entered
        · exact ends (Bool.eq_false_iff.mpr released) current here
        · exact tracked.ended entry entered
      · exact tracked.ended
  · rw [log_eq]
    exact stray
  · intro nothing
    refine idle ?_
    rw [log_eq, ← Option.isNone_iff_eq_none, ← Option.not_isSome,
      InputEvents.underWay_isSome] at nothing
    exact Bool.not_eq_true' _ ▸ nothing
  · intro current' here
    rw [log_eq] at here
    rw [show (inputEventsChanged actionTable state new).now = state.now from
      (calm_changed actionTable state new).now]
    have pressed := congrArg Option.isSome here
    rw [InputEvents.underWay_isSome] at pressed
    exact current pressed log current' last period here

theorem Tracked.held (held : inputAction.1.action = .held)
    (due : ∀ timed ∈ state.pending, state.now < timed.due)
    (before : actionIsPress state.inputEventBits inputAction = true)
    (after : actionIsPress new inputAction = true) :
    Tracked actionTable inputAction (inputEventsChanged actionTable state new) := by
  refine tracked.of_changed due (by simp [after]) (by simp [after]) fun _ log period' last same
    next => ?_
  have timers : heldDue (inputEventsChanged actionTable state new).pending inputAction =
      if actionTable.zipIdx.any (releases state.inputEventBits new) then []
      else heldDue state.pending inputAction := by
    rw [heldDue_unpressed]
    rw [presses_eq held, before]
    rfl
  obtain ⟨current, here⟩ := Option.isSome_iff_exists.mp (tracked.underWay_isSome.trans before)
  rw [underWay, if_pos after, same, here, last] at next
  cases next
  rw [timers]
  dsimp only
  rcases tracked.current current here with
    ⟨disturbed, nothing, sends⟩ | ⟨calm, one, sends⟩ | ⟨calm, nothing, sends, passed⟩
  · left
    rw [disturbed, nothing]
    exact ⟨rfl, ite_self _, sends⟩
  · rw [calm, decide_eq_true (waits_of_due due one), one]
    cases actionTable.zipIdx.any (releases state.inputEventBits new) with
    | true => exact Or.inl ⟨rfl, if_pos rfl, sends⟩
    | false => exact Or.inr (Or.inl ⟨rfl, if_neg Bool.false_ne_true, sends⟩)
  · right
    right
    rw [calm, nothing, decide_eq_false (Nat.not_lt.mpr passed)]
    exact ⟨rfl, ite_self _, sends, passed⟩

section

variable (member : inputAction ∈ actionTable.zipIdx) (held : inputAction.1.action = .held)
  (due : ∀ timed ∈ state.pending, state.now < timed.due)

include member held due

theorem Tracked.released (before : actionIsPress state.inputEventBits inputAction = true)
    (after : actionIsPress new inputAction = false) :
    Tracked actionTable inputAction (inputEventsChanged actionTable state new) := by
  refine tracked.of_changed due (fun _ current here => ?_)
    (fun _ => heldDue_released member held before after) (by simp [after])
  rcases tracked.current current here with
    ⟨disturbed, nothing, sends⟩ | ⟨calm, one, sends⟩ | ⟨calm, nothing, sends, passed⟩
  · rw [if_neg fun both => absurd (disturbed.symm.trans both.2) (by decide), sends]
  · rw [if_neg fun both => absurd (waits_of_due due one) (Nat.not_lt.mpr both.1), sends]
  · rw [if_pos ⟨passed, calm⟩, sends]

theorem Tracked.pressed (before : actionIsPress state.inputEventBits inputAction = false)
    (after : actionIsPress new inputAction = true) :
    Tracked actionTable inputAction (inputEventsChanged actionTable state new) := by
  refine tracked.of_changed due (by simp [after]) (by simp [after]) fun _ log period' last same
    next => ?_
  have nothing := Option.isSome_eq_false_iff.mp (tracked.underWay_isSome.trans before)
  rw [Option.isNone_iff_eq_none] at nothing
  have presses : presses state.inputEventBits new inputAction = true := by
    rw [presses_eq held, before, after]
    rfl
  rw [underWay, if_pos after, same, nothing, last] at next
  cases next
  rw [heldDue_pressed member presses (tracked.idle nothing)]
  dsimp only
  cases (actionTable.zipIdx.drop (inputAction.2 + 1)).any
      (releases state.inputEventBits new) with
  | true => exact Or.inl ⟨rfl, if_pos rfl, rfl⟩
  | false => exact Or.inr (Or.inl ⟨rfl, if_neg Bool.false_ne_true, rfl⟩)

end

theorem Tracked.unpressed (held : inputAction.1.action = .held)
    (due : ∀ timed ∈ state.pending, state.now < timed.due)
    (before : actionIsPress state.inputEventBits inputAction = false)
    (after : actionIsPress new inputAction = false) :
    Tracked actionTable inputAction (inputEventsChanged actionTable state new) := by
  have nothing := Option.isSome_eq_false_iff.mp (tracked.underWay_isSome.trans before)
  rw [Option.isNone_iff_eq_none] at nothing
  refine tracked.of_changed due (by simp [nothing]) (fun _ => ?_) (by simp [after])
  rw [heldDue_unpressed (by rw [presses_eq held, after, Bool.and_false]), tracked.idle nothing]
  exact ite_self _

theorem Tracked.changed
    (member : inputAction ∈ actionTable.zipIdx) (held : inputAction.1.action = .held)
    (due : ∀ timed ∈ state.pending, state.now < timed.due) (new : BitVec 32) :
    Tracked actionTable inputAction (inputEventsChanged actionTable state new) := by
  cases before : actionIsPress state.inputEventBits inputAction with
  | true =>
    cases after : actionIsPress new inputAction with
    | true => exact tracked.held held due before after
    | false => exact tracked.released member held due before after
  | false =>
    cases after : actionIsPress new inputAction with
    | true => exact tracked.pressed member held due before after
    | false => exact tracked.unpressed held due before after

end

end Changing

section Delivering

variable {index : Nat} {timed : TimedMessage}

private theorem split_at (here : state.pending[index]? = some timed) :
    ∃ before behind, state.pending = before ++ timed :: behind ∧
      state.pending.eraseIdx index = before ++ behind := by
  obtain ⟨inside, same⟩ := List.getElem?_eq_some_iff.mp here
  refine ⟨state.pending.take index, state.pending.drop (index + 1), ?_,
    List.eraseIdx_eq_take_drop_succ ..⟩
  rw [← same, ← List.drop_eq_getElem_cons inside, List.take_append_drop]

private theorem heldDue_at (before behind : List TimedMessage) :
    heldDue (before ++ timed :: behind) inputAction = heldDue before inputAction ++
      ((if timed.message = .heldTimer inputAction then [timed.due] else []) ++
        heldDue behind inputAction) := by
  rw [heldDue_append, ← List.singleton_append, heldDue_append, heldDue_singleton]

def taken (state : InputEventState) (index : Nat) (timed : TimedMessage) : InputEventState :=
  { state with
    now := timed.due
    pending := state.pending.eraseIdx index }

private theorem taken_due (first : ∀ other ∈ state.pending, timed.due ≤ other.due) :
    ∀ other ∈ (taken state index timed).pending, (taken state index timed).now ≤ other.due :=
  fun other member => first other ((List.eraseIdx_sublist _ _).subset member)

section

variable (tracked : Tracked actionTable inputAction state)

include tracked

section

variable (here : state.pending[index]? = some timed)
  (first : ∀ other ∈ state.pending, timed.due ≤ other.due)

include here first

theorem Tracked.taken (foreign : timed.message ≠ .heldTimer inputAction) :
    Tracked actionTable inputAction (taken state index timed) := by
  obtain ⟨before, behind, split, erased⟩ := split_at here
  refine tracked.keep rfl ⟨[], rfl, nofun⟩ ?_ ?_ (taken_due first)
  · rw [InputEvents.taken, split] at *
    rw [erased, heldDue_at, if_neg foreign, List.nil_append, heldDue_append]
  · exact tracked.due timed (List.mem_of_getElem? here)

theorem Tracked.fired (own : timed.message = .heldTimer inputAction)
    (quiet : Quiet (InputEvents.taken state index timed) next) :
    Tracked actionTable inputAction (next.messageSend .held inputAction) := by
  obtain ⟨before, behind, split, erased⟩ := split_at here
  have timers : heldDue state.pending inputAction =
      heldDue before inputAction ++ timed.due :: heldDue behind inputAction := by
    rw [split, heldDue_at, if_pos own]
    rfl
  have member : timed.due ∈ heldDue state.pending inputAction := by
    rw [timers]
    exact List.mem_append_right _ List.mem_cons_self
  obtain ⟨current, under⟩ : ∃ current,
      underWay actionTable inputAction state.log = some current := by
    cases period : underWay actionTable inputAction state.log with
    | none =>
      rw [tracked.idle period] at member
      exact absurd member List.not_mem_nil
    | some current => exact ⟨current, rfl⟩
  have waiting : current.disturbed = false ∧
      heldDue state.pending inputAction = [current.start + inputAction.1.timeout] ∧
      current.sends = 0 := by
    rcases tracked.current current under with ⟨-, nothing, -⟩ | waiting | ⟨-, nothing, -⟩
    · rw [nothing] at member
      exact absurd member List.not_mem_nil
    · exact waiting
    · rw [nothing] at member
      exact absurd member List.not_mem_nil
  obtain ⟨calm, one, sends⟩ := waiting
  have due : timed.due = current.start + inputAction.1.timeout := by
    rw [one] at member
    exact List.mem_singleton.mp member
  have left : heldDue next.pending inputAction = [] := by
    have removed : heldDue before inputAction ++ heldDue behind inputAction = [] := by
      rw [one] at timers
      have count := congrArg List.length timers
      rw [List.length_singleton, List.length_append, List.length_cons] at count
      apply List.eq_nil_of_length_eq_zero
      rw [List.length_append]
      omega
    rw [quiet.timers, InputEvents.taken]
    dsimp only
    rw [erased, heldDue_append, removed]
  obtain ⟨entries, log, others⟩ := quiet.log
  obtain ⟨last, period, periods, stray⟩ := others_append actionTable inputAction others state.log
  have log : next.log = entries ++ state.log := log
  rw [← log] at last period periods stray
  have sent : underWay actionTable inputAction (next.messageSend .held inputAction).log =
      some { current with sends := 1 } := by
    rw [messageSend, underWay, if_pos ⟨rfl, rfl⟩, period, under, Option.map_some, sends]
  constructor
  · change lastBits next.log = next.inputEventBits
    rw [last, tracked.bits, quiet.bits]
    rfl
  · intro other member
    change next.now ≤ other.due
    rw [quiet.now]
    cases quiet.due other member with
    | inl member => exact taken_due first other member
    | inr late => exact late
  · change ∀ entry ∈ InputEvents.ended actionTable inputAction next.log, _
    rw [periods]
    exact tracked.ended
  · refine ⟨fun _ _ => ?_, stray.mpr tracked.stray⟩
    rw [period, under]
    rfl
  · rw [sent]
    exact nofun
  · intro current' here'
    rw [sent] at here'
    cases here'
    refine Or.inr (Or.inr ⟨calm, left, rfl, ?_⟩)
    change _ ≤ next.now
    rw [quiet.now, ← due]
    exact Nat.le_refl timed.due

end

theorem Tracked.sentOther {other : ActionRef} (foreign : other ≠ inputAction) :
    Tracked actionTable inputAction (state.messageSend .held other) := by
  have same : underWay actionTable inputAction (state.messageSend .held other).log =
      underWay actionTable inputAction state.log :=
    if_neg fun both => foreign both.2
  constructor
  · exact tracked.bits
  · exact tracked.due
  · exact tracked.ended
  · exact ⟨fun _ own => absurd own foreign, tracked.stray⟩
  · rw [same]
    exact tracked.idle
  · rw [same]
    exact tracked.current

private theorem Tracked.finished (other : ActionRef) :
    Tracked actionTable inputAction
      (if other.1.repeatDelay ≠ 0 then
        startRepeat (state.messageCancelAll InternalMessage.isRepeatTimer) other
      else state.messageCancelAll InternalMessage.isRepeatTimer) := by
  have cancelled := tracked.quiet (quiet_cancelRepeat state)
  split
  · exact cancelled.quiet (quiet_startRepeat _ other)
  · exact cancelled

end

theorem quiet_handleRepeatTimer (state : InputEventState) :
    Quiet state (handleRepeatTimer state) := by
  rw [handleRepeatTimer]
  split
  · exact Quiet.refl state
  · exact (quiet_messageSend state (by decide) _).trans (quiet_messageSendLater rfl _)

theorem quiet_handleMultiClickTimer (actionTable : List InputActionMessage)
    (state : InputEventState) (other : ActionRef) :
    Quiet state (handleMultiClickTimer actionTable state other) := by
  have sending (others : List ActionRef) (sending : InputEventState) : Quiet sending
      (others.foldl (fun sending entry =>
        if clicksMatch state other entry then sending.messageSend .multiClick entry
        else sending) sending) := by
    induction others generalizing sending with
    | nil => exact Quiet.refl sending
    | cons entry others ih =>
      rw [List.foldl_cons]
      refine Quiet.trans ?_ (ih _)
      split
      · exact quiet_messageSend sending (by decide) entry
      · exact Quiet.refl sending
  rw [handleMultiClickTimer]
  refine Quiet.trans ?_ (quiet_multiClickEnd _)
  split
  · exact sending actionTable.zipIdx state
  · exact Quiet.refl state

theorem Tracked.delivered (tracked : Tracked actionTable inputAction state)
    (here : state.pending[index]? = some timed)
    (first : ∀ other ∈ state.pending, timed.due ≤ other.due) :
    Tracked actionTable inputAction
      (handleInternal actionTable (InputEvents.taken state index timed) timed.message) := by
  cases message : timed.message with
  | heldTimer other =>
    rw [handleInternal, handleHeldTimer]
    by_cases own : other = inputAction
    · rw [own] at message ⊢
      exact (tracked.fired here first message (quiet_multiClickEnd _)).finished inputAction
    · have taken := tracked.taken here first (by
        rw [message]
        exact fun equal => own (InternalMessage.heldTimer.inj equal))
      exact ((taken.quiet (quiet_multiClickEnd _)).sentOther own).finished other
  | repeatTimer =>
    have taken := tracked.taken here first (by rw [message]; exact nofun)
    exact taken.quiet (quiet_handleRepeatTimer _)
  | heldReleaseTimer other =>
    have taken := tracked.taken here first (by rw [message]; exact nofun)
    have stored : Quiet (InputEvents.taken state index timed)
        { InputEvents.taken state index timed with heldRelease := some other } :=
      ⟨⟨rfl, rfl, ⟨[], rfl, nofun⟩, fun _ member => Or.inl member⟩, fun _ => rfl⟩
    exact taken.quiet (stored.trans (quiet_multiClickEnd _))
  | multiClickTimer other =>
    have taken := tracked.taken here first (by rw [message]; exact nofun)
    exact taken.quiet (quiet_handleMultiClickTimer actionTable _ other)

end Delivering

end Tracking

section Runs

variable {config : InputEventConfig} {state next : InputEventState}

section

variable (tracked : Tracked actionTable inputAction state)
  (member : inputAction ∈ actionTable.zipIdx) (held : inputAction.1.action = .held)

include tracked member held

theorem Tracked.step {event : Event} (steps : step config actionTable state event = some next) :
    Tracked actionTable inputAction next := by
  cases event with
  | pioChanged time mpc =>
    rw [InputEvents.step] at steps
    split at steps
    · rename_i allowed
      have waited : Tracked actionTable inputAction { state with now := time } :=
        tracked.keep rfl ⟨[], rfl, nofun⟩ rfl allowed.1
          fun timed member => Nat.le_of_lt (allowed.2 timed member)
      rw [← Option.some.inj steps, handleMessagePioChangedEvents]
      dsimp only
      split
      · refine Tracked.changed ?_ member held allowed.2 _
        exact waited.keep rfl ⟨[], rfl, nofun⟩ rfl (Nat.le_refl time) waited.due
      · exact waited
    · contradiction
  | deliver index =>
    rw [InputEvents.step] at steps
    split at steps
    · contradiction
    · rename_i timed here
      split at steps
      · rename_i first
        rw [← Option.some.inj steps]
        exact tracked.delivered here first
      · contradiction

theorem Tracked.run {events : List Event}
    (runs : events.foldlM (InputEvents.step config actionTable) state = some next) :
    Tracked actionTable inputAction next := by
  induction events generalizing state with
  | nil => exact Option.some.inj runs ▸ tracked
  | cons event events ih =>
    obtain ⟨after, steps, runs⟩ := Option.bind_eq_some_iff.mp runs
    exact ih (tracked.step member held steps) runs

end

/-- Holding an action is detected as it should be just when no period of it that lasts for
the timeout is disturbed. -/
theorem holdDetected_iff {events : List Event}
    (runs : events.foldlM (InputEvents.step config actionTable) InputEventState.init = some state)
    (member : inputAction ∈ actionTable.zipIdx) (held : inputAction.1.action = .held) :
    HoldDetected actionTable inputAction state.log state.now ↔
      Undisturbed actionTable inputAction state.log state.now := by
  have tracked := (Tracked.init actionTable inputAction).run member held runs
  constructor
  · intro detected
    constructor
    · intro entry entered lasts
      have sends := detected.ended entry entered
      rw [if_pos lasts, tracked.ended entry entered] at sends
      by_contra disturbed
      rw [if_neg fun both => disturbed both.2] at sends
      contradiction
    · intro period here lasts
      have sends := (detected.current period here).2.2 lasts
      rcases tracked.current period here with ⟨-, -, nothing⟩ | ⟨calm, -⟩ | ⟨calm, -⟩
      · rw [nothing] at sends
        contradiction
      · exact calm
      · exact calm
  · intro undisturbed
    constructor
    · intro entry entered
      rw [tracked.ended entry entered]
      by_cases lasts : entry.1.start + inputAction.1.timeout ≤ entry.2
      · rw [if_pos lasts, if_pos ⟨lasts, undisturbed.ended entry entered lasts⟩]
      · rw [if_neg lasts, if_neg fun both => lasts both.1]
    · intro period here
      rcases tracked.current period here with
        ⟨disturbed, -, nothing⟩ | ⟨-, one, nothing⟩ | ⟨-, -, once, passed⟩
      · refine ⟨by rw [nothing]; exact Nat.zero_le 1, fun sent => ?_, fun lasts => ?_⟩
        · rw [nothing] at sent
          contradiction
        · rw [undisturbed.current period here lasts] at disturbed
          contradiction
      · refine ⟨by rw [nothing]; exact Nat.zero_le 1, fun sent => ?_, fun lasts => ?_⟩
        · rw [nothing] at sent
          contradiction
        · obtain ⟨timed, waits, same, -⟩ := mem_of_heldDue
            (by rw [one]; exact List.mem_cons_self)
          have due := tracked.due timed waits
          omega
      · exact ⟨Nat.le_of_eq once, fun _ => passed, fun _ => once⟩
    · exact tracked.stray

def plainConfig : InputEventConfig :=
  { pioToIemId := fun pio => pio
    pioInputMask := fun bank => if bank.val = 0 then BitVec.allOnes 32 else 0 }

def holdButton (bits : BitVec 32) (message : Nat) : InputActionMessage :=
  { bits := bits
    mask := bits
    action := .held
    timeout := 1000
    repeatDelay := 0
    count := 0
    message := message }

def twoButtons : List InputActionMessage := [holdButton 1 10, holdButton 2 20]

def buttons (time : Nat) (state : BitVec 32) : Event :=
  .pioChanged time ⟨⟨0, by decide⟩, state⟩

theorem heldOnce :
    ∃ state, [buttons 0 1, .deliver 0, buttons 1500 0].foldlM
        (InputEvents.step plainConfig twoButtons) InputEventState.init = some state ∧
      state.log = [.bits 1500 0, .sent 1000 .held (holdButton 1 10, 0), .bits 0 1] ∧
      (HoldDetected twoButtons (holdButton 1 10, 0) state.log state.now ↔
        Undisturbed twoButtons (holdButton 1 10, 0) state.log state.now) := by
  have found : ([buttons 0 1, .deliver 0, buttons 1500 0].foldlM
      (InputEvents.step plainConfig twoButtons) InputEventState.init).any (fun state =>
        decide (state.log =
          [.bits 1500 0, .sent 1000 .held (holdButton 1 10, 0), .bits 0 1])) = true := by
    decide +kernel
  obtain ⟨state, runs, shown⟩ := (Option.any_eq_true _ _).mp found
  exact ⟨state, runs, of_decide_eq_true shown, holdDetected_iff runs (by decide +kernel) rfl⟩

/-- The first button is held for two seconds.  The second one, pressed and released in
between, takes its timer away, and no message is sent. -/
theorem heldBesideAnother_lost :
    ∃ state, [buttons 0 1, buttons 100 3, buttons 500 1, buttons 2000 0].foldlM
        (InputEvents.step plainConfig twoButtons) InputEventState.init = some state ∧
      state.log = [.bits 2000 0, .bits 500 1, .bits 100 3, .bits 0 1] ∧
      ¬ HoldDetected twoButtons (holdButton 1 10, 0) state.log state.now := by
  have found : ([buttons 0 1, buttons 100 3, buttons 500 1, buttons 2000 0].foldlM
      (InputEvents.step plainConfig twoButtons) InputEventState.init).any (fun state =>
        decide (state.log = [.bits 2000 0, .bits 500 1, .bits 100 3, .bits 0 1])) = true := by
    decide +kernel
  obtain ⟨state, runs, shown⟩ := (Option.any_eq_true _ _).mp found
  refine ⟨state, runs, of_decide_eq_true shown, fun detected => ?_⟩
  rw [of_decide_eq_true shown] at detected
  have period : ended twoButtons (holdButton 1 10, 0)
      [.bits 2000 0, .bits 500 1, .bits 100 3, .bits 0 1] = [(⟨0, 0, true⟩, 2000)] := by
    decide +kernel
  have sends := detected.ended _ (by rw [period]; exact List.mem_cons_self)
  exact absurd sends (by decide)

end Runs

end HeadsetAdk.InputEvents
