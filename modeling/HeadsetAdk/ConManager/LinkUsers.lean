import HeadsetAdk.ConManager.Connections
import HeadsetAdk.Lib.EventLog

/-! # The users of a link -/

namespace HeadsetAdk.ConManager

open Option (map_eq_some_iff some.inj)

def holders (slot : Slot) : List Entry → List Task
  | [] => []
  | .created slot' user :: log =>
      if slot' = slot then user :: holders slot log else holders slot log
  | .released slot' (some user) :: log =>
      if slot' = slot then (holders slot log).erase user else holders slot log
  | .reset slot' :: log => if slot' = slot then [] else holders slot log
  | _ :: log => holders slot log

def OnlyUnused : List Entry → Prop
  | [] => True
  | .closeReq slot :: log => holders slot log = [] ∧ OnlyUnused log
  | .removed slot :: log => holders slot log = [] ∧ OnlyUnused log
  | _ :: log => OnlyUnused log

structure Counted (m : ConManager) : Prop where
  users : ∀ slot, (m.connections slot).users = (holders slot m.log).length
  unused : OnlyUnused m.log

section Counting

variable {m next : ConManager} {slot : Slot} {log : List Entry}

section

variable (counted : Counted m)

include counted

theorem Counted.modify (change : Connection → Connection)
    (elsewhere : ∀ other, other ≠ slot → holders other log = holders other m.log)
    (here : (change (m.connections slot)).users = (holders slot log).length)
    (unused : OnlyUnused log) : Counted { m.modify slot change with log := log } where
  users other := by
    have before := counted.users other
    by_cases same : other = slot
    · subst same
      exact (congrArg Connection.users (m.modify_self other change)).trans here
    · have kept := congrArg Connection.users (m.modify_of_ne change same)
      rw [← elsewhere other same] at before
      exact kept.trans before
  unused := unused

theorem Counted.keep (users : ∀ slot, (next.connections slot).users = (m.connections slot).users)
    (same : ∀ slot, holders slot next.log = holders slot m.log) (unused : OnlyUnused next.log) :
    Counted next where
  users slot := by rw [users slot, same slot, counted.users slot]
  unused := unused

theorem Counted.setConnectionState (slot : Slot) (state : LinkState) :
    Counted (m.setConnectionState slot state) :=
  counted.modify (fun connection => { connection with state := state }) (fun _ _ => rfl)
    (counted.users slot) counted.unused

theorem Counted.resetConnection (slot : Slot) : Counted (m.resetConnection slot) := by
  refine counted.modify (fun _ => Connection.unused) (fun other distinct => ?_) ?_ counted.unused
  · rw [holders, if_neg (Ne.symm distinct)]
  · rw [holders, if_pos rfl]
    rfl

theorem addConnectionUser_counted_iff (user : Task) :
    Counted (m.addConnectionUser slot user) ↔ (m.connections slot).users < 7 := by
  have bound := counted.users slot
  have more : holders slot (.created slot user :: m.log) = user :: holders slot m.log := by
    rw [holders, if_pos rfl]
  constructor
  · intro after
    have users := after.users slot
    have here := congrArg Connection.users (m.modify_self slot fun connection =>
      { connection with users := (connection.users + 1) % 8 })
    have length := congrArg List.length more
    rw [List.length_cons] at length
    have same := (here.symm.trans users).trans length
    dsimp only at same
    omega
  · intro room
    refine counted.modify _ (fun other distinct => ?_) ?_ counted.unused
    · rw [holders, if_neg (Ne.symm distinct)]
    · rw [more, List.length_cons, ← bound]
      exact Nat.mod_eq_of_lt (Nat.succ_lt_succ room)

theorem Counted.removeConnectionUser {user : Task}
    (paired : user ∈ holders slot m.log ∨ holders slot m.log = []) :
    Counted (m.removeConnectionUser slot (some user)) := by
  refine counted.modify _ (fun other distinct => ?_) ?_ counted.unused
  · rw [holders, if_neg (Ne.symm distinct)]
  · rw [holders, if_pos rfl]
    change (m.connections slot).users - 1 = _
    rw [counted.users slot]
    cases paired with
    | inl holder => rw [List.length_erase_of_mem holder]
    | inr nobody => rw [nobody]; rfl

theorem paired_of_removed {user : Task}
    (after : (m.connections slot).users - 1 = ((holders slot m.log).erase user).length ∨
      (holders slot m.log).erase user = []) :
    user ∈ holders slot m.log ∨ holders slot m.log = [] := by
  by_cases holder : user ∈ holders slot m.log
  · exact Or.inl holder
  · right
    rw [List.erase_of_not_mem holder, counted.users slot] at after
    cases after with
    | inl same => exact List.length_eq_zero_iff.mp (by omega)
    | inr nobody => exact nobody

theorem Counted.resumeLeScanIfPaused : Counted m.resumeLeScanIfPaused := by
  rw [ConManager.resumeLeScanIfPaused]
  split
  · exact counted.keep (fun _ => rfl) (fun _ => rfl) counted.unused
  · exact counted

theorem Counted.resumeUnlessConnecting : Counted m.resumeUnlessConnecting := by
  rw [ConManager.resumeUnlessConnecting]
  split
  · exact counted
  · exact counted.resumeLeScanIfPaused

theorem Counted.sendOpenTpAclRequestInternally (slot : Slot) :
    Counted (m.sendOpenTpAclRequestInternally slot) :=
  (counted.setConnectionState slot .aclConnectingInternal).keep (fun _ => rfl) (fun _ => rfl)
    counted.unused

theorem Counted.prepareForConnection (slot : Slot) : Counted (m.prepareForConnection slot) := by
  rw [ConManager.prepareForConnection]
  split
  · exact (counted.setConnectionState slot .aclConnectingPendingPause).keep (fun _ => rfl)
      (fun _ => rfl) counted.unused
  · exact counted.sendOpenTpAclRequestInternally slot

theorem Counted.prepareForConnectionComplete : Counted m.prepareForConnectionComplete := by
  rw [ConManager.prepareForConnectionComplete]
  dsimp only
  split
  · exact counted.resumeLeScanIfPaused
  · refine counted.keep (fun slot => ?_) (fun _ => rfl) counted.unused
    dsimp only
    split <;> rfl

end

theorem prepareForConnection_users (m : ConManager) (slot : Slot) :
    ((m.prepareForConnection slot).connections slot).users = (m.connections slot).users := by
  rw [ConManager.prepareForConnection]
  split
  · exact setConnectionState_users slot slot .aclConnectingPendingPause
  · exact setConnectionState_users slot slot .aclConnectingInternal

end Counting

section Operations

variable {m next : ConManager} {vm : Resolver} {user : Task} {tpaddr : TpBdaddr} {state : LinkState}
  {slot : Slot}

theorem Counted.addConnection (counted : Counted m)
    (added : m.addConnection vm tpaddr state = some (next, slot)) : Counted next := by
  rcases addConnection_cases added with ⟨-, rfl⟩ | ⟨-, rfl⟩
  · exact counted.setConnectionState slot state
  · have reset := counted.resetConnection slot
    exact reset.modify (fun connection => { connection with tpaddr := tpaddr, state := state })
      (fun _ _ => rfl) (reset.users slot) reset.unused

theorem addConnection_room_iff (added : m.addConnection vm tpaddr state = some (next, slot)) :
    (next.connections slot).users < 7 ↔ ∀ slot, m.findConnectionFromBdAddr vm tpaddr = some slot →
        (m.connections slot).users < 7 := by
  rcases addConnection_cases added with ⟨found, rfl⟩ | ⟨missing, rfl⟩
  · rw [setConnectionState_self, found]
    exact ⟨fun room slot' same => some.inj same ▸ room, fun room => room slot rfl⟩
  · rw [modify_self, missing]
    dsimp only
    rw [resetConnection_self]
    exact iff_of_true (by decide) fun _ found => absurd found.symm (Option.some_ne_none _)

def HasRoom (m : ConManager) (vm : Resolver) (tpaddr : TpBdaddr) : Prop :=
  ∀ slot, m.findConnectionFromBdAddr vm tpaddr = some slot → (m.connections slot).users < 7

theorem createNew_counted_iff (counted : Counted m)
    (created : ((m.addConnection vm tpaddr state).map fun added =>
      (added.1.prepareForConnection added.2).addConnectionUser added.2 user) = some next) :
    Counted next ↔ HasRoom m vm tpaddr := by
  obtain ⟨⟨added, slot⟩, adds, rfl⟩ := map_eq_some_iff.mp created
  have prepared := (counted.addConnection adds).prepareForConnection slot
  rw [addConnectionUser_counted_iff prepared, prepareForConnection_users,
    addConnection_room_iff adds]
  rfl

theorem createAclImpl_counted_iff (counted : Counted m)
    (created : m.createAclImpl vm user tpaddr = some next) :
    Counted next ↔ HasRoom m vm tpaddr := by
  rw [ConManager.createAclImpl] at created
  dsimp only at created
  split at created
  · rename_i slot found
    split at created
    · rw [createNew_counted_iff (counted.setConnectionState slot .aclDisconnected) created,
        HasRoom, HasRoom, findConnection_setConnectionState]
      simp only [setConnectionState_users]
    · rw [← some.inj created, addConnectionUser_counted_iff counted, HasRoom, found]
      exact ⟨fun room slot' same => some.inj same ▸ room, fun room => room slot rfl⟩
  · exact createNew_counted_iff counted created

/-- A release is by a holder of the link, or where it has none. -/
def ByHolder (m : ConManager) (vm : Resolver) (user : Task) (tpaddr : TpBdaddr) : Prop :=
  ∀ slot, m.findConnectionFromBdAddr vm tpaddr = some slot →
    user ∈ holders slot m.log ∨ holders slot m.log = []

theorem Counted.closeConnection (counted : Counted m)
    (nobody : holders slot m.log = []) : Counted (m.closeConnection slot) := by
  rw [ConManager.closeConnection]
  split
  · have removed : Counted { m with log := .removed slot :: m.log } :=
      counted.keep (fun _ => rfl) (fun _ => rfl) ⟨nobody, counted.unused⟩
    exact removed.resetConnection slot
  · exact counted.modify _ (fun _ _ => rfl) (counted.users slot) ⟨nobody, counted.unused⟩

theorem nobody_of_closeConnection
    (after : Counted (m.closeConnection slot).resumeUnlessConnecting) :
    holders slot m.log = [] := by
  have closed : OnlyUnused (m.closeConnection slot).log := by
    have unused := after.unused
    rw [ConManager.resumeUnlessConnecting] at unused
    split at unused
    · exact unused
    · rw [ConManager.resumeLeScanIfPaused] at unused
      split at unused
      · exact unused
      · exact unused
  rw [ConManager.closeConnection] at closed
  split at closed
  · exact closed.1
  · exact closed.1

section

variable (counted : Counted m)

include counted

theorem releaseAclImpl_counted_iff :
    Counted (m.releaseAclImpl vm (some user) tpaddr) ↔ ByHolder m vm user tpaddr := by
  rw [ConManager.releaseAclImpl.eq_def, ByHolder]
  split
  · rename_i missing
    rw [missing]
    exact iff_of_true counted fun _ found => absurd found.symm (Option.some_ne_none _)
  · rename_i slot found
    have left : holders slot (m.removeConnectionUser slot (some user)).log =
        (holders slot m.log).erase user := by
      rw [ConManager.removeConnectionUser, holders, if_pos rfl]
    have users : ((m.removeConnectionUser slot (some user)).connections slot).users =
        (m.connections slot).users - 1 := by
      exact congrArg Connection.users (m.modify_self slot fun connection =>
        { connection with users := connection.users - 1 })
    rw [found]
    constructor
    · intro after slot' same
      obtain rfl := some.inj same
      refine paired_of_removed counted ?_
      dsimp only at after
      split at after
      · exact Or.inl (by rw [← users, after.users slot, left])
      · exact Or.inr (left ▸ nobody_of_closeConnection after)
    · intro holder
      have released := counted.removeConnectionUser (holder slot rfl)
      dsimp only
      split
      · exact released
      · rename_i unused
        refine Counted.resumeUnlessConnecting (released.closeConnection ?_)
        exact List.length_eq_zero_iff.mp (by rw [← released.users slot]; omega)

theorem Counted.handleAclOpenedIndication {success : Bool}
    (opened : m.handleAclOpenedIndication vm tpaddr success = some next) : Counted next := by
  rw [ConManager.handleAclOpenedIndication.eq_def] at opened
  split at opened
  · obtain ⟨⟨added, slot⟩, adds, rfl⟩ := map_eq_some_iff.mp opened
    exact (counted.addConnection adds).resumeUnlessConnecting
  · split at opened
    · rename_i slot _
      rw [← some.inj opened]
      exact (counted.resetConnection slot).resumeUnlessConnecting
    · rw [← some.inj opened]
      exact counted.resumeUnlessConnecting

theorem Counted.checkForAllLeDisconnected : Counted m.checkForAllLeDisconnected := by
  rw [ConManager.checkForAllLeDisconnected.eq_def]
  split
  · split
    · exact counted
    · exact counted.keep (fun _ => rfl) (fun _ => rfl) counted.unused
  · exact counted

theorem Counted.handleAclClosedIndication {handsetTimeout : Bool}
    (closed : m.handleAclClosedIndication vm tpaddr handsetTimeout = some next) : Counted next := by
  rw [ConManager.handleAclClosedIndication.eq_def] at closed
  split at closed
  · rename_i slot _
    split at closed
    · obtain ⟨⟨added, slot'⟩, adds, rfl⟩ := map_eq_some_iff.mp closed
      exact ((counted.resetConnection slot).addConnection adds).checkForAllLeDisconnected
    · rw [← some.inj closed]
      exact (counted.resetConnection slot).checkForAllLeDisconnected
  · exact some.inj closed ▸ counted

theorem Counted.handleInternalAclOpenReq : Counted (m.handleInternalAclOpenReq vm tpaddr) := by
  rw [ConManager.handleInternalAclOpenReq.eq_def]
  split
  · split
    · rename_i slot _ _
      exact (counted.setConnectionState slot .aclConnecting).keep (fun _ => rfl) (fun _ => rfl)
        counted.unused
    · exact counted.resumeUnlessConnecting
  · exact counted.resumeUnlessConnecting

end

theorem holders_resets {slots : List Slot} {log : List Entry}
    (member : slot ∈ slots) : holders slot (slots.map .reset ++ log) = [] := by
  induction slots with
  | nil => exact absurd member List.not_mem_nil
  | cons first slots ih =>
    rw [List.map_cons, List.cons_append, holders]
    split
    · rfl
    · rename_i distinct
      exact ih ((List.mem_cons.mp member).resolve_left (Ne.symm distinct))

theorem OnlyUnused.resets {log : List Entry} (unused : OnlyUnused log) (slots : List Slot) :
    OnlyUnused (slots.map .reset ++ log) := by
  induction slots with
  | nil => exact unused
  | cons first slots ih => exact ih

theorem Counted.handleAllAclsClosed (counted : Counted m) : Counted m.handleAllAclsClosed := by
  have reset : Counted { m with
      connections := fun _ => Connection.unused
      log := (List.finRange maxConnections).reverse.map Entry.reset ++ m.log } := by
    refine ⟨fun slot => ?_, counted.unused.resets _⟩
    rw [holders_resets (List.mem_reverse.mpr (List.mem_finRange slot))]
    rfl
  rw [ConManager.handleAllAclsClosed]
  cases m.forcedDisconnectTask with
  | none => exact reset.keep (fun _ => rfl) (fun _ => rfl) reset.unused
  | some task => exact reset.keep (fun _ => rfl) (fun _ => rfl) reset.unused

end Operations

/-- Creations and releases are paired, and the count has room.  What disconnects all LE links
is not among these events. -/
def Paired (m : ConManager) : Event → Prop
  | .createAcl _ tpaddr vm => HasRoom m vm tpaddr
  | .releaseAcl user tpaddr vm => ByHolder m vm user tpaddr
  | .disconnectAllLe _ _ => False
  | _ => True

instance (m : ConManager) (event : Event) : Decidable (Paired m event) :=
  match event with
  | .createAcl _ tpaddr vm =>
      inferInstanceAs (Decidable (∀ slot, m.findConnectionFromBdAddr vm tpaddr = some slot → _))
  | .releaseAcl _ tpaddr vm =>
      inferInstanceAs (Decidable (∀ slot, m.findConnectionFromBdAddr vm tpaddr = some slot → _))
  | .disconnectAllLe _ _ => inferInstanceAs (Decidable False)
  | .aclOpened _ _ _ | .aclClosed _ _ _ | .pauseCfm | .internalOpen _ | .terminateAllAcls _
  | .allAclsClosed => inferInstanceAs (Decidable True)

theorem step_counted_iff {m next : ConManager} (counted : Counted m) {event : Event}
    (users : ∀ requester vm, event ≠ .disconnectAllLe requester vm)
    (steps : m.step event = some next) : Counted next ↔ Paired m event := by
  cases event with
  | createAcl user tpaddr vm => exact createAclImpl_counted_iff counted steps
  | releaseAcl user tpaddr vm =>
    rw [← some.inj steps]
    exact releaseAclImpl_counted_iff counted
  | aclOpened tpaddr success vm =>
    exact iff_of_true (counted.handleAclOpenedIndication steps) trivial
  | aclClosed tpaddr handsetTimeout vm =>
    exact iff_of_true (counted.handleAclClosedIndication steps) trivial
  | pauseCfm =>
    refine iff_of_true ?_ trivial
    rw [step] at steps
    split at steps
    · contradiction
    · rw [← some.inj steps]
      exact Counted.prepareForConnectionComplete
        (counted.keep (fun _ => rfl) (fun _ => rfl) counted.unused)
  | internalOpen vm =>
    refine iff_of_true ?_ trivial
    rw [step.eq_def] at steps
    dsimp only at steps
    split at steps
    · contradiction
    · rw [← some.inj steps]
      exact Counted.handleInternalAclOpenReq
        (counted.keep (fun _ => rfl) (fun _ => rfl) counted.unused)
  | terminateAllAcls requester =>
    refine iff_of_true ?_ trivial
    rw [step, terminateAllAcls] at steps
    split at steps
    · contradiction
    · rw [← some.inj steps]
      exact counted.keep (fun _ => rfl) (fun _ => rfl) counted.unused
  | allAclsClosed =>
    rw [← some.inj steps]
    exact iff_of_true counted.handleAllAclsClosed trivial
  | disconnectAllLe requester vm => exact absurd rfl (users requester vm)

theorem init_counted : Counted init := ⟨fun _ => rfl, trivial⟩

/-- In a run where creations and releases are paired, the counts are right and a release closes
only links without holders.  The next event keeps it so just when it is paired too. -/
theorem run_counted_iff {events : List Event} {m : ConManager}
    (runs : runAllowed step Paired events init = some m) :
    Counted m ∧ ∀ event next, (∀ requester vm, event ≠ .disconnectAllLe requester vm) →
      m.step event = some next → (Counted next ↔ Paired m event) := by
  have counted : Counted m := by
    refine (Reached.run .start runs).invariant init_counted fun _ event _ paired steps counted => ?_
    refine (step_counted_iff counted ?_ steps).mpr paired
    rintro requester vm rfl
    exact paired
  exact ⟨counted, fun event next users steps => step_counted_iff counted users steps⟩

def handset : TpBdaddr := ⟨.bredrAcl, ⟨.typedPublic, 7⟩⟩

/-- Two users share a link. -/
def shared : List Event :=
  [.createAcl 1 handset unresolved, .internalOpen unresolved, .aclOpened handset true unresolved,
    .createAcl 2 handset unresolved, .releaseAcl 1 handset unresolved,
    .releaseAcl 2 handset unresolved, .aclClosed handset false unresolved]

theorem shared_counted :
    ∃ m, runAllowed step Paired shared init = some m ∧
      (Counted m ∧ ∀ event next, (∀ requester vm, event ≠ .disconnectAllLe requester vm) →
        m.step event = some next → (Counted next ↔ Paired m event)) := by
  have found : (runAllowed step Paired shared init).isSome = true := by decide +kernel
  obtain ⟨m, runs⟩ := Option.isSome_iff_exists.mp found
  exact ⟨m, runs, run_counted_iff runs⟩

def crowded : List Event :=
  [1, 2, 3, 4, 5, 6, 7, 8].map (fun user => .createAcl user handset unresolved) ++
    [.internalOpen unresolved, .aclOpened handset true unresolved, .releaseAcl 1 handset unresolved]

/-- The link of user 1 is gone when it releases it, and user 2 has a new one. -/
def outlived : List Event :=
  [.createAcl 1 handset unresolved, .internalOpen unresolved, .aclOpened handset true unresolved,
    .aclClosed handset false unresolved, .createAcl 2 handset unresolved,
    .internalOpen unresolved, .aclOpened handset true unresolved,
    .releaseAcl 1 handset unresolved]

/-- The stack is asked to close a link that others have not released. -/
theorem closed_in_use :
    (∃ m, crowded.foldlM step init = some m ∧ m.log.head? = some (.closeReq 0) ∧
      holders 0 m.log = [8, 7, 6, 5, 4, 3, 2] ∧ ¬ OnlyUnused m.log) ∧
    ∃ m, outlived.foldlM step init = some m ∧ m.log.head? = some (.closeReq 0) ∧
      holders 0 m.log = [2] ∧ ¬ OnlyUnused m.log := by
  refine ⟨⟨_, rfl, rfl, rfl, fun unused => ?_⟩, ⟨_, rfl, rfl, rfl, fun unused => ?_⟩⟩
  · exact List.cons_ne_nil _ _ unused.1
  · exact List.cons_ne_nil _ _ unused.1

end HeadsetAdk.ConManager
