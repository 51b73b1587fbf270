import Mathlib.Data.List.Sublists

/-!
# Replay of physical states

Only the newest report of an Earbud is sent when the link is busy.  From the flags of the peer and
the reported state `state_proxy_phy_state.c` replays the transitions in between.
-/

namespace HeadsetAdk.StateProxy

inductive PhyState
  | unknown | inCase | outOfEar | outOfEarAtRest | inEar
  deriving DecidableEq

inductive PhyStateEvent
  | inCase | outOfCase | inEar | outOfEar | inMotion | notInMotion
  deriving DecidableEq

structure PhyStateChangedInd where
  newState : PhyState
  event : PhyStateEvent
  deriving DecidableEq

def exitState : PhyState → List PhyStateChangedInd
  | .inCase => [⟨.outOfEar, .outOfCase⟩]
  | .outOfEarAtRest => [⟨.outOfEar, .inMotion⟩]
  | .inEar => [⟨.outOfEar, .outOfEar⟩]
  | .outOfEar | .unknown => []

/-- The indication on entering a state; a bad state is a panic. -/
def enterState : PhyState → Option (List PhyStateChangedInd)
  | .inCase => some [⟨.inCase, .inCase⟩]
  | .outOfEar => some []
  | .outOfEarAtRest => some [⟨.outOfEarAtRest, .notInMotion⟩]
  | .inEar => some [⟨.inEar, .inEar⟩]
  | .unknown => none

/-- `appPhyStateSetState` on the reported state, where notifications may be `limited`. -/
def setState (reported newState : PhyState) (limited : Bool) :
    Option (PhyState × List PhyStateChangedInd) :=
  if limited = true then some (reported, [])
  else
    let next := if reported = .unknown ∨ reported = .outOfEar then newState else .outOfEar
    (enterState next).map fun entered => (next, exitState reported ++ entered)

def reports (reported : PhyState) :
    List (PhyState × Bool) → Option (PhyState × List PhyStateChangedInd)
  | [] => some (reported, [])
  | (newState, limited) :: rest => do
    let (next, sent) ← setState reported newState limited
    let (last, later) ← reports next rest
    return (last, sent ++ later)

/-- A report is one that the sender makes when `before` is what it reported last. -/
def isReport (before : PhyState) (ind : PhyStateChangedInd) : Bool :=
  [.inCase, .outOfEar, .outOfEarAtRest, .inEar].any fun newState =>
    setState before newState false = some (ind.newState, [ind])

/-- The flags of `state_proxy_data_t` for the physical state. -/
structure PhyFlags where
  inCase : Bool
  inEar : Bool
  inMotion : Bool
  deriving DecidableEq

/-- `stateProxy_UpdatePhyState` -/
def PhyFlags.update (flags : PhyFlags) : PhyStateEvent → PhyFlags
  | .inCase => { flags with inCase := true }
  | .outOfCase => { flags with inCase := false }
  | .inEar => { flags with inEar := true }
  | .outOfEar => { flags with inEar := false }
  | .inMotion => { flags with inMotion := true }
  | .notInMotion => { flags with inMotion := false }

def remoteInitialFlags : PhyFlags := ⟨true, false, false⟩

/-- The indications of `stateProxy_SendRemotePhyStateTransitions`. -/
def transitions (flags : PhyFlags) (ind : PhyStateChangedInd) : List PhyStateChangedInd :=
  let send (needed : Bool) (state : PhyState) (event : PhyStateEvent) : List PhyStateChangedInd :=
    if needed = true then [⟨state, event⟩] else []
  match ind.newState with
  | .inCase =>
    send flags.inEar .outOfEar .outOfEar ++ send (!flags.inMotion) .outOfEar .inMotion ++
      send (!flags.inCase) .inCase .inCase
  | .outOfEar =>
    send flags.inCase .outOfEar .outOfCase ++ send (!flags.inMotion) .outOfEar .inMotion ++
      send flags.inEar .outOfEar .outOfEar
  | .outOfEarAtRest =>
    send flags.inCase .outOfEar .outOfCase ++ send flags.inEar .outOfEar .outOfEar ++
      send flags.inMotion .outOfEarAtRest .notInMotion
  | .inEar =>
    send flags.inCase .outOfEar .outOfCase ++ send (!flags.inMotion) .outOfEar .inMotion ++
      send (!flags.inEar) .inEar .inEar
  | .unknown => []

def PhyFlags.updateAll (flags : PhyFlags) (inds : List PhyStateChangedInd) : PhyFlags :=
  inds.foldl (fun flags ind => flags.update ind.event) flags

/-- The flags after `stateProxy_HandleRemotePhyStateChangedInd`. -/
def PhyFlags.handleRemote (flags : PhyFlags) (ind : PhyStateChangedInd) : PhyFlags :=
  flags.updateAll (transitions flags ind)

section Replay

def PhyFlags.held (flags : PhyFlags) : PhyState :=
  if flags.inCase = true then .inCase
  else if flags.inEar = true then .inEar
  else if flags.inMotion = true then .outOfEar
  else .outOfEarAtRest

def legalChain (before : PhyState) : List PhyStateChangedInd → PhyState → Bool
  | [], target => before = target
  | ind :: rest, target => isReport before ind && legalChain ind.newState rest target

def eachChanges (flags : PhyFlags) : List PhyStateChangedInd → Bool
  | [] => true
  | ind :: rest => flags.update ind.event ≠ flags && eachChanges (flags.update ind.event) rest

def replaysRight (flags : PhyFlags) (ind : PhyStateChangedInd) : Bool :=
  legalChain flags.held (transitions flags ind) ind.newState &&
    eachChanges flags (transitions flags ind)

def eachReplaysRight (flags : PhyFlags) : List PhyStateChangedInd → Bool
  | [] => true
  | ind :: rest => replaysRight flags ind && eachReplaysRight (flags.handleRemote ind) rest

/-- The replay of what was `received` of the reports `sent`: right at each indication, with the
flags at the end that all reports give, replayed as well as taken as they are. -/
def Follows (flags : PhyFlags) (sent received : List PhyStateChangedInd) : Prop :=
  eachReplaysRight flags received = true ∧
    received.foldl PhyFlags.handleRemote flags = sent.foldl PhyFlags.handleRemote flags ∧
    received.foldl PhyFlags.handleRemote flags = flags.updateAll sent

def PhyFlags.Settled (flags : PhyFlags) : Prop :=
  (flags.inCase && flags.inEar) = false ∧ ((flags.inCase || flags.inEar) = true →
    flags.inMotion = true)

def flagsOf : PhyState → PhyFlags
  | .inCase => ⟨true, false, true⟩
  | .outOfEar => ⟨false, false, true⟩
  | .inEar => ⟨false, true, true⟩
  | .outOfEarAtRest | .unknown => ⟨false, false, false⟩

variable {flags : PhyFlags} {ind : PhyStateChangedInd} {reported last : PhyState}
  {sent received : List PhyStateChangedInd}

theorem handleRemote_eq (known : ind.newState ≠ .unknown) :
    flags.handleRemote ind = flagsOf ind.newState := by
  obtain ⟨state, event⟩ := ind
  obtain ⟨inCase, inEar, inMotion⟩ := flags
  cases state <;> cases inCase <;> cases inEar <;> cases inMotion <;>
    first | rfl | exact absurd rfl known

theorem replaysRight_iff (known : ind.newState ≠ .unknown) :
    replaysRight flags ind = true ↔ flags.Settled := by
  obtain ⟨state, event⟩ := ind
  obtain ⟨inCase, inEar, inMotion⟩ := flags
  cases state <;> cases inCase <;> cases inEar <;> cases inMotion <;>
    first | exact absurd rfl known | simp [PhyFlags.Settled]; rfl

theorem settled_flagsOf (state : PhyState) : (flagsOf state).Settled := by
  cases state <;> exact ⟨rfl, by decide⟩

theorem PhyFlags.held_known (flags : PhyFlags) : flags.held ≠ .unknown := by
  obtain ⟨inCase, inEar, inMotion⟩ := flags
  cases inCase <;> cases inEar <;> cases inMotion <;> decide

theorem PhyFlags.Settled.flagsOf_held (settled : flags.Settled) : flagsOf flags.held = flags := by
  obtain ⟨inCase, inEar, inMotion⟩ := flags
  revert settled
  cases inCase <;> cases inEar <;> cases inMotion <;> simp [PhyFlags.Settled] <;> rfl

structure Told (reported last : PhyState) (sent : List PhyStateChangedInd) : Prop where
  known : last ≠ .unknown
  states : ∀ ind ∈ sent, ind.newState ≠ .unknown
  replayed : sent.foldl PhyFlags.handleRemote (flagsOf reported) = flagsOf last
  updated : (flagsOf reported).updateAll sent = flagsOf last

theorem told_setState {newState : PhyState} {limited : Bool} (known : reported ≠ .unknown)
    (stepped : setState reported newState limited = some (last, sent)) :
    Told reported last sent := by
  cases reported <;> cases newState <;> cases limited <;>
    first
      | exact absurd rfl known
      | cases stepped; exact ⟨by decide, by decide, rfl, rfl⟩
      | cases stepped

theorem told_reports {calls : List (PhyState × Bool)} (known : reported ≠ .unknown)
    (run : reports reported calls = some (last, sent)) : Told reported last sent := by
  induction calls generalizing reported sent with
  | nil =>
    cases run
    exact ⟨known, by simp, rfl, rfl⟩
  | cons call calls ih =>
    obtain ⟨⟨next, first⟩, stepped, run⟩ := Option.bind_eq_some_iff.mp run
    obtain ⟨⟨_, later⟩, followed, result⟩ := Option.bind_eq_some_iff.mp run
    cases result
    have told := told_setState known stepped
    have rest := ih told.known followed
    refine ⟨rest.known, fun ind member => ?_, ?_, ?_⟩
    · exact (List.mem_append.mp member).elim (told.states ind) (rest.states ind)
    · rw [List.foldl_append, told.replayed, rest.replayed]
    · have split : (flagsOf reported).updateAll (first ++ later) =
          ((flagsOf reported).updateAll first).updateAll later := List.foldl_append
      rw [split, told.updated, rest.updated]

theorem eachReplaysRight_of_settled (settled : flags.Settled)
    (known : ∀ ind ∈ received, ind.newState ≠ .unknown) :
    eachReplaysRight flags received = true := by
  induction received generalizing flags with
  | nil => rfl
  | cons ind received ih =>
    obtain ⟨knownFirst, knownRest⟩ := List.forall_mem_cons.mp known
    have right := (replaysRight_iff knownFirst).mpr settled
    rw [eachReplaysRight, right, Bool.true_and]
    refine ih ?_ knownRest
    rw [handleRemote_eq knownFirst]
    exact settled_flagsOf _

theorem foldl_handleRemote (known : ∀ ind ∈ received, ind.newState ≠ .unknown)
    (lastInd : received.getLast? = some ind) :
    received.foldl PhyFlags.handleRemote flags = flagsOf ind.newState := by
  obtain ⟨before, rfl⟩ := List.getLast?_eq_some_iff.mp lastInd
  rw [List.foldl_append, List.foldl_cons, List.foldl_nil]
  exact handleRemote_eq (known ind (by simp))

/-- A bud that holds anything but the flags of an indication of its peer replays wrongly, and
with these flags it follows the peer whatever reports are dropped before the last. -/
theorem follows_iff_settled (flags : PhyFlags) (calls : List (PhyState × Bool))
    (run : reports flags.held calls = some (last, sent)) (dropped : received.Sublist sent)
    (newest : received.getLast? = sent.getLast?) (nonempty : received ≠ []) :
    Follows flags sent received ↔ flags.Settled := by
  have told := told_reports flags.held_known run
  have known : ∀ ind ∈ received, ind.newState ≠ .unknown := fun ind member =>
    told.states ind (dropped.subset member)
  constructor
  · intro follows
    cases received with
    | nil => exact absurd rfl nonempty
    | cons first received =>
      exact (replaysRight_iff (known first (by simp))).mp (Bool.and_eq_true_iff.mp follows.1).1
  · intro settled
    have lastInd := List.getLast?_eq_some_getLast nonempty
    have same : received.foldl PhyFlags.handleRemote flags =
        sent.foldl PhyFlags.handleRemote flags := by
      rw [foldl_handleRemote known lastInd, foldl_handleRemote told.states (newest ▸ lastInd)]
    refine ⟨eachReplaysRight_of_settled settled known, same, ?_⟩
    have replayed := told.replayed
    have updated := told.updated
    rw [settled.flagsOf_held] at replayed updated
    rw [same, replayed, updated]

theorem follows_iff_settled_inEar :
    Follows (flagsOf .inCase) [⟨.outOfEar, .outOfCase⟩, ⟨.inEar, .inEar⟩] [⟨.inEar, .inEar⟩] ↔
      (flagsOf .inCase).Settled :=
  follows_iff_settled (flagsOf .inCase) [(.inEar, false), (.inEar, false)] rfl (by decide) rfl
    (by decide)

/-- The peer left its case and was put back, and the first of the reports was dropped. -/
theorem inCase_replayed_outOfEar :
    ¬ ∀ (flags : PhyFlags) (calls : List (PhyState × Bool)) (last : PhyState)
      (sent received : List PhyStateChangedInd),
      reports flags.held calls = some (last, sent) → received.Sublist sent →
      received.getLast? = sent.getLast? → received ≠ [] → Follows flags sent received := by
  intro claim
  have follows := claim remoteInitialFlags [(.outOfEar, false), (.inCase, false)] .inCase
    [⟨.outOfEar, .outOfCase⟩, ⟨.inCase, .inCase⟩] [⟨.inCase, .inCase⟩] rfl (by decide) rfl
    (by decide)
  exact absurd follows.1 (by decide)

end Replay

end HeadsetAdk.StateProxy
