import HeadsetAdk.Handset.ServedMessages

/-! # Every request has its confirmation -/

namespace HeadsetAdk.Handset

open TaskLists
open Option (map_eq_some_iff some.inj)

namespace HandsetSm

/-- No client is forgotten over the input. -/
def Fine (context : Context) (sm : HandsetSm) : Input → Prop
  | .connectReq _ _ _ => sm.state = .connectingBredrAcl →
      ∃ message ∈ sm.queue, Pages message = true ∧ message.isDisconnectReq = false
  | .stopConnect _ => stable sm.state = true → sm.connectList = []
  | .bleTpDisconnectInd => sm.leState ≠ .disconnected →
      ({ sm with leState := .disconnected } : HandsetSm).allConnectionsDisconnected context
        false = true → sm.connectList = [] ∧ sm.connectStopTask = none
  | _ => True

instance (context : Context) (sm : HandsetSm) (input : Input) :
    Decidable (sm.Fine context input) := by
  cases input
  case connectReq =>
    exact inferInstanceAs (Decidable (sm.state = .connectingBredrAcl →
      ∃ message ∈ sm.queue, Pages message = true ∧ message.isDisconnectReq = false))
  case stopConnect =>
    exact inferInstanceAs (Decidable (stable sm.state = true → sm.connectList = []))
  case bleTpDisconnectInd =>
    exact inferInstanceAs (Decidable (sm.leState ≠ .disconnected → _ = true →
      sm.connectList = [] ∧ sm.connectStopTask = none))
  all_goals exact isTrue trivial

variable {context : Context} {sm sm' : HandsetSm} {task : Task} {device : Option Bdaddr}

theorem asks_connectRequest (other : Kind) (client : Task) :
    asks other client (.connectRequest task) = decide (other = .connect ∧ client = task) := by
  cases other with
  | connect => exact decide_eq_decide.mpr ⟨fun same => ⟨rfl, same.symm⟩, fun both => both.2.symm⟩
  | disconnect => rfl
  | stop => rfl

theorem asks_disconnectRequest (other : Kind) (client : Task) :
    asks other client (.disconnectRequest task) = decide (other = .disconnect ∧ client = task) := by
  cases other with
  | connect => rfl
  | disconnect =>
    exact decide_eq_decide.mpr ⟨fun same => ⟨rfl, same.symm⟩, fun both => both.2.symm⟩
  | stop => rfl

theorem asks_stopConnect (other : Kind) (client : Task) :
    asks other client (.stopConnect task) = decide (other = .stop ∧ client = task) := by
  cases other with
  | connect => rfl
  | disconnect => rfl
  | stop => exact decide_eq_decide.mpr ⟨fun same => ⟨rfl, same.symm⟩, fun both => both.2.symm⟩

theorem setDeviceIfNone_unseen (sm : HandsetSm) (device : Option Bdaddr) :
    Unseen sm (sm.setDeviceIfNone device) := by
  rw [setDeviceIfNone]
  split
  · exact .refl sm
  · exact ⟨rfl, rfl, rfl, rfl⟩

theorem setDeviceIfNone_state (sm : HandsetSm) (device : Option Bdaddr) :
    (sm.setDeviceIfNone device).state = sm.state := by
  rw [setDeviceIfNone]
  split
  · rfl
  · rfl

theorem setDeviceIfNone_queue (sm : HandsetSm) (device : Option Bdaddr) :
    (sm.setDeviceIfNone device).queue = sm.queue := by
  rw [setDeviceIfNone]
  split
  · rfl
  · rfl

theorem setDeviceIfNone_served (served : sm.Served) (device : Option Bdaddr) :
    (sm.setDeviceIfNone device).Served :=
  Handling.served_of_same served (setDeviceIfNone_unseen sm device)
    (setDeviceIfNone_state sm device) (setDeviceIfNone_queue sm device)

variable {profiles : Profiles}

theorem connectReq_listed (listed : sm.IsListed)
    (done : sm.connectReq task device profiles = some sm') : sm'.IsListed := by
  obtain ⟨tasks, added, rfl⟩ := map_eq_some_iff.mp done
  have unseen := setDeviceIfNone_unseen { sm with log := .connectRequest task :: sm.log } device
  generalize HandsetSm.setDeviceIfNone { sm with log := .connectRequest task :: sm.log }
    device = ready at added unseen ⊢
  rw [show (ready.completeDisconnectRequests .cancelled).connectList = sm.connectList
    from unseen.connectList] at added
  have asking : ({ ready with connectList := tasks } : HandsetSm).IsListed := by
    rw [IsListed]
    dsimp only
    rw [unseen.log]
    refine Listed.ask listed asks_connectRequest (fun other _ => by cases other <;> rfl)
      (addTask_nodup added (listed.distinct .connect)) (fun other => ?_) fun other apart => ?_
    · exact (addTask_mem added other).trans or_comm
    · cases other with
      | connect => exact absurd rfl apart
      | disconnect => exact unseen.disconnectList
      | stop => exact congrArg Option.toList unseen.connectStopTask
  exact Unseen.listed ⟨rfl, rfl, rfl, rfl⟩ (asking.completeDisconnectRequests .cancelled)

theorem connectReq_state (done : sm.connectReq task device profiles = some sm') :
    sm'.state = sm.state ∧ sm'.connectStopTask = sm.connectStopTask ∧
      ∃ asked : Option Bdaddr, sm'.queue =
        (sm.queue.filter fun message => !message.isDisconnectReq) ++
          [.connectReq asked profiles] := by
  obtain ⟨tasks, added, rfl⟩ := map_eq_some_iff.mp done
  have unseen := setDeviceIfNone_unseen { sm with log := .connectRequest task :: sm.log } device
  have state := setDeviceIfNone_state { sm with log := .connectRequest task :: sm.log } device
  have queue := setDeviceIfNone_queue { sm with log := .connectRequest task :: sm.log } device
  generalize HandsetSm.setDeviceIfNone { sm with log := .connectRequest task :: sm.log }
    device = ready at unseen state queue ⊢
  exact ⟨state, unseen.connectStopTask, _, congrArg
    (fun queue => queue.filter (fun message => !message.isDisconnectReq) ++
      [.connectReq (ready.completeDisconnectRequests .cancelled).handsetDevice profiles]) queue⟩

theorem connectReq_served_iff (served : sm.Served) (used : sm.state ≠ .null)
    (done : sm.connectReq task device profiles = some sm') :
    sm'.Served ↔ sm.Fine context (.connectReq task device profiles) := by
  obtain ⟨state, stopTask, asked, queue⟩ := connectReq_state done
  constructor
  · intro after paging
    obtain ⟨message, member, pages⟩ := after.rested.paging (state.trans paging)
    rw [queue] at member
    rcases List.mem_append.mp member with before | new
    · obtain ⟨member, kept⟩ := List.mem_filter.mp before
      exact ⟨message, member, pages, Bool.not_eq_true' _ ▸ kept⟩
    · rw [List.mem_singleton.mp new] at pages
      exact absurd pages Bool.false_ne_true
  · intro fine
    refine ⟨connectReq_listed served.listed done, fun _ _ => ?_, fun settled waits => ?_,
      fun unused => absurd (state.symm.trans unused) used, fun paging => ?_⟩
    · exact ⟨_, queue ▸ List.mem_append_right _ List.mem_cons_self, rfl⟩
    · rw [state] at settled
      rw [stopTask] at waits
      obtain ⟨message, member, asks⟩ := served.rested.stop settled waits
      refine ⟨message, queue ▸ List.mem_append_left _ (List.mem_filter.mpr ⟨member, ?_⟩), asks⟩
      cases message with
      | connectStopReq => rfl
      | _ => exact absurd asks Bool.false_ne_true
    · obtain ⟨message, member, pages, kept⟩ := fine (state.symm.trans paging)
      refine ⟨message, queue ▸ List.mem_append_left _ (List.mem_filter.mpr ⟨member, ?_⟩), pages⟩
      rw [kept]
      rfl

theorem disconnectReq_served {exclude : Profiles} (served : sm.Served)
    (used : sm.state ≠ .null) (done : sm.disconnectReq task exclude = some sm') :
    sm'.Served := by
  obtain ⟨tasks, added, rfl⟩ := map_eq_some_iff.mp done
  have asking : ({ sm with
      log := .disconnectRequest task :: sm.log
      disconnectList := tasks } : HandsetSm).IsListed := by
    refine Listed.ask served.listed asks_disconnectRequest
      (fun other _ => by cases other <;> rfl)
      (addTask_nodup added (served.listed.distinct .disconnect)) (fun other => ?_)
      fun other apart => ?_
    · exact (addTask_mem added other).trans or_comm
    · cases other with
      | disconnect => exact absurd rfl apart
      | connect => rfl
      | stop => rfl
  refine ⟨Unseen.listed ⟨rfl, rfl, rfl, rfl⟩ (asking.completeConnectRequests .cancelled),
    fun _ waits => absurd rfl waits, fun settled waits => ?_, fun unused => absurd unused used,
    fun _ => ⟨_, List.mem_append_right _ List.mem_cons_self, rfl⟩⟩
  obtain ⟨message, member, asks⟩ := served.rested.stop settled waits
  refine ⟨message, List.mem_append_left _ (List.mem_filter.mpr ⟨member, ?_⟩), asks⟩
  cases message with
  | connectStopReq => rfl
  | _ => exact absurd asks Bool.false_ne_true

theorem stopConnect_listed (listed : sm.IsListed)
    (done : sm.stopConnect task = some sm') : sm'.IsListed := by
  rw [HandsetSm.stopConnect] at done
  dsimp only at done
  split at done
  · contradiction
  · next alone =>
    cases done
    refine Listed.ask listed asks_stopConnect (fun other _ => by cases other <;> rfl)
      (List.pairwise_singleton _ task) (fun other => ?_) fun other apart => ?_
    · refine List.mem_singleton.trans ⟨.inl, fun either => either.elim id fun waits => ?_⟩
      have waits : sm.connectStopTask = some other := Option.mem_toList.mp waits
      by_contra apart
      refine alone ⟨waits ▸ rfl, fun same => apart (some.inj ?_)⟩
      exact waits.symm.trans same
    · cases other with
      | stop => exact absurd rfl apart
      | connect => rfl
      | disconnect => rfl

theorem stopConnect_state (done : sm.stopConnect task = some sm') :
    sm'.state = sm.state ∧ sm'.connectList = sm.connectList ∧
      .connectStopReq sm.handsetDevice ∈ sm'.queue ∧
      ∀ message ∈ sm'.queue, message.isConnectReq = false := by
  rw [HandsetSm.stopConnect] at done
  dsimp only at done
  split at done
  · contradiction
  · cases done
    refine ⟨rfl, rfl, ?_, fun message member => ?_⟩
    · exact List.mem_filter.mpr ⟨List.mem_append_right _ List.mem_cons_self, rfl⟩
    · have kept := (List.mem_filter.mp member).2
      rw [Bool.and_eq_true, Bool.not_eq_true'] at kept
      exact kept.1

theorem stopConnect_served_iff (served : sm.Served) (used : sm.state ≠ .null)
    (done : sm.stopConnect task = some sm') :
    sm'.Served ↔ sm.Fine context (.stopConnect task) := by
  obtain ⟨state, connectList, asked, gone⟩ := stopConnect_state done
  constructor
  · intro after settled
    by_contra waits
    obtain ⟨message, member, asks⟩ := after.rested.connect (state ▸ settled) (connectList ▸ waits)
    exact absurd ((gone message member).symm.trans asks) Bool.false_ne_true
  · intro fine
    refine ⟨stopConnect_listed served.listed done, fun settled waits => ?_,
      fun _ _ => ⟨_, asked, rfl⟩, fun unused => absurd (state.symm.trans unused) used,
      fun _ => ⟨_, asked, rfl⟩⟩
    rw [state] at settled
    exact absurd (connectList.trans (fine settled)) waits

theorem bleSetDisconnected_served_iff (served : sm.Served) :
    (sm.bleSetDisconnected context).Served ↔ sm.Fine context .bleTpDisconnectInd := by
  rw [bleSetDisconnected]
  split
  · next already => exact iff_of_true served fun notAlready => absurd already notAlready
  · next connected =>
    dsimp only
    split
    · next all =>
      have answered : (({ sm with leState := .disconnected } : HandsetSm).completeDisconnectRequests
          .success).IsListed :=
        IsListed.completeDisconnectRequests
          (Unseen.listed ⟨rfl, rfl, rfl, rfl⟩ served.listed) .success
      constructor
      · intro after _ _
        refine ⟨List.eq_nil_iff_forall_not_mem.mpr fun client waits => ?_, ?_⟩
        · exact List.not_mem_nil (((after.listed).waits .connect client).mpr
            ((answered.waits .connect client).mp waits))
        · exact Option.toList_eq_nil_iff.mp (after.rested.unused rfl .stop)
      · intro fine
        obtain ⟨connect, stop⟩ := fine connected all
        have gone : ({ (({ sm with leState := .disconnected } :
            HandsetSm).completeDisconnectRequests .success) with leAddr := none } :
            HandsetSm).IsListed := Unseen.listed ⟨rfl, rfl, rfl, rfl⟩ answered
        exact gone.deInit connect rfl stop
    · next notAll =>
      exact iff_of_true
        (Handling.served_of_same served ⟨rfl, rfl, rfl, rfl⟩ rfl rfl)
        fun _ all => absurd all notAll

end HandsetSm

namespace Handling

open HandsetSm

variable {context : Context} {handling handling' : Handling} {profile : Profiles}
  {success : Bool}

section Indications

section

variable (served : handling.sm.Served)

include served

theorem leaveIfDisconnected_served
    (done : handling.leaveIfDisconnected context = some handling') : handling'.sm.Served := by
  rw [leaveIfDisconnected] at done
  split at done
  · exact setDisconnected_served served.listed done
  · exact some.inj done ▸ served

theorem settleProfiles_served (done : handling.settleProfiles context success = some handling') :
    handling'.sm.Served := by
  rw [settleProfiles] at done
  split at done
  · exact setConnectedBredr_served served.listed done
  · split at done
    · exact setDisconnected_served served.listed done
    · exact setConnectedBredr_served served.listed done

theorem handleProfileManagerConnectCfm_served
    (done : handling.handleProfileManagerConnectCfm context success = some handling') :
    handling'.sm.Served := by
  obtain ⟨ended, ends, rfl⟩ := map_eq_some_iff.mp done
  have kept : ended.sm.Served := by
    rw [endConnect.eq_def] at ends
    split at ends
    · exact settleProfiles_served served ends
    · exact settleProfiles_served served ends
    · exact leaveIfDisconnected_served served ends
    · exact some.inj ends ▸ served
  exact served_of_same kept ⟨rfl, rfl, rfl, rfl⟩ rfl rfl

theorem handleProfileManagerDisconnectCfm_served
    (done : handling.handleProfileManagerDisconnectCfm context success = some handling') :
    handling'.sm.Served := by
  rw [handleProfileManagerDisconnectCfm] at done
  split at done
  · next both => exact tryDisconnectingBredr_served served.listed both.1 done
  · exact some.inj done ▸ served

end

theorem restartProfileConnectionTimeout_served {sm : HandsetSm} (served : sm.Served)
    (state : sm.state = .connectingBredrProfiles ∨ sm.state = .stopConnectingBredrProfiles) :
    sm.restartProfileConnectionTimeout.Served := by
  rw [restartProfileConnectionTimeout]
  split
  · exact IsListed.busy (Unseen.listed ⟨rfl, rfl, rfl, rfl⟩ served.listed)
      (state.imp_right .inr)
  · exact served

theorem profileConnected_served (served : handling.sm.Served)
    (state : handling.sm.state = .connectingBredrProfiles ∨
      handling.sm.state = .stopConnectingBredrProfiles)
    (done : handling.profileConnected context profile = some handling') :
    handling'.sm.Served := by
  obtain ⟨connected, connects, rfl⟩ := map_eq_some_iff.mp done
  have kept : connected.sm.Served := by
    split at connects
    · exact setConnectedBredr_served served.listed connects
    · exact some.inj connects ▸ restartProfileConnectionTimeout_served served state
  exact served_of_same kept ⟨rfl, rfl, rfl, rfl⟩ rfl rfl

variable {device : Bdaddr}

section

variable (served : handling.sm.Served)

include served

theorem handleProfileManagerConnectedInd_served
    (done : handling.handleProfileManagerConnectedInd context device profile =
      some handling') : handling'.sm.Served := by
  rw [handleProfileManagerConnectedInd.eq_def] at done
  split at done
  · contradiction
  · split at done
    · split at done
      · exact setConnectedBredr_served served.listed done
      · exact some.inj done ▸ served
    · next state => exact profileConnected_served served (.inl state) done
    · next state => exact profileConnected_served served (.inr state) done
    · exact some.inj done ▸ served

theorem handleProfileManagerDisconnectedInd_served
    (done : handling.handleProfileManagerDisconnectedInd context device = some handling') :
    handling'.sm.Served := by
  rw [handleProfileManagerDisconnectedInd.eq_def] at done
  split at done
  · contradiction
  · split at done
    case h_5 => exact some.inj done ▸ served
    all_goals exact leaveIfDisconnected_served served done

theorem handleConManagerBredrTpConnectInd_served
    (done : handling.handleConManagerBredrTpConnectInd context device = some handling') :
    handling'.sm.Served := by
  rw [handleConManagerBredrTpConnectInd.eq_def] at done
  split at done
  · contradiction
  · split at done
    · exact setConnectingBredrProfiles_served served.listed done
    · next state =>
      split at done
      · cases done
        refine listed_paging (Unseen.listed ⟨rfl, rfl, rfl, rfl⟩ served.listed) state ?_
        exact ⟨.connectAclComplete, List.mem_append_right _ List.mem_cons_self, rfl⟩
      · exact some.inj done ▸ served
    · exact some.inj done ▸ served

theorem tpConnectInd_served
    (done : handling.tpConnectInd context device = some handling') : handling'.sm.Served := by
  refine handleConManagerBredrTpConnectInd_served ?_ done
  split
  · exact served
  · exact served_of_same served ⟨rfl, rfl, rfl, rfl⟩ rfl rfl

theorem handleConManagerBredrTpDisconnectInd_served {reason : HciStatus}
    (done : handling.handleConManagerBredrTpDisconnectInd context device reason =
      some handling') : handling'.sm.Served := by
  rw [handleConManagerBredrTpDisconnectInd.eq_def] at done
  split at done
  · exact some.inj done ▸ served
  · split at done
    · contradiction
    · split at done
      · split at done
        · exact setStopConnectingBredrProfiles_served served.listed done
        · exact setDisconnected_served served.listed done
        · exact setDisconnected_served served.listed done
        · exact setDisconnected_served served.listed done
        · exact some.inj done ▸ served
      · exact some.inj done ▸ served

end

end Indications

theorem handle_served_iff {input : Input} (served : handling.sm.Served)
    (used : handling.sm.state = .null → input.isToTask = true)
    (done : handling.handle context input = some handling') :
    handling'.sm.Served ↔ handling.sm.Fine context input := by
  have inUse : input.isToTask = false → handling.sm.state ≠ .null := fun other unused =>
    Bool.false_ne_true (other.symm.trans (used unused))
  cases input with
  | connectReq task device profiles =>
    obtain ⟨sm, asked, rfl⟩ := map_eq_some_iff.mp done
    exact connectReq_served_iff served (inUse rfl) asked
  | disconnectReq task exclude =>
    obtain ⟨sm, asked, rfl⟩ := map_eq_some_iff.mp done
    exact iff_of_true (disconnectReq_served served (inUse rfl) asked) trivial
  | stopConnect task =>
    obtain ⟨sm, asked, rfl⟩ := map_eq_some_iff.mp done
    exact stopConnect_served_iff served (inUse rfl) asked
  | internal message => exact iff_of_true (handleInternal_served served done) trivial
  | connectProfilesCfm success =>
    exact iff_of_true (handleProfileManagerConnectCfm_served served done) trivial
  | disconnectProfilesCfm success =>
    exact iff_of_true (handleProfileManagerDisconnectCfm_served served done) trivial
  | connectedProfileInd device profile =>
    refine iff_of_true (handleProfileManagerConnectedInd_served ?_ done) trivial
    exact setDeviceIfNone_served served (some device)
  | disconnectedProfileInd device =>
    exact iff_of_true (handleProfileManagerDisconnectedInd_served served done) trivial
  | tpConnectInd device => exact iff_of_true (tpConnectInd_served served done) trivial
  | tpDisconnectInd device reason =>
    exact iff_of_true (handleConManagerBredrTpDisconnectInd_served served done) trivial
  | bleTpConnectInd device addr =>
    cases done
    refine iff_of_true (served_of_same (setDeviceIfNone_served served device)
      ⟨rfl, rfl, rfl, rfl⟩ rfl rfl) trivial
  | bleTpDisconnectInd =>
    cases done
    exact bleSetDisconnected_served_iff served
  | pairingSuccess device =>
    cases done
    exact iff_of_true (setDeviceIfNone_served served (some device)) trivial

end Handling

namespace Service

open HandsetSm

variable {service next : Service} {slot : Nat} {world : World} {input : Input}
  {event : Event} {device leAddr : Option Bdaddr}

structure Served (service : Service) : Prop where
  machines : ∀ sm ∈ service.machines, sm.Served
  atOnce : Listed (fun _ => []) service.log

def Fine (service : Service) (event : Event) : Prop :=
  ∀ handled ∈ event.handled, ∀ sm ∈ service.machines[handled.1]?,
    sm.Fine (service.contextOf handled.1 handled.2.1) handled.2.2

instance : Decidable (service.Fine event) :=
  inferInstanceAs (Decidable (∀ handled ∈ event.handled, ∀ sm ∈ service.machines[handled.1]?, _))

theorem handleAt_eq_some (done : service.handleAt slot world input = some next) :
    ∃ sm handling, service.machines[slot]? = some sm ∧ (sm.state = .null → input.isToTask = true) ∧
      Handling.handle (service.contextOf slot world)
        ⟨{ sm with aclReported := sm.aclUp world input }, service.connectable⟩ input =
          some handling ∧
      next = { service with
        machines := service.machines.set slot handling.sm
        connectable := handling.connectable } := by
  obtain ⟨sm, found, rest⟩ := Option.bind_eq_some_iff.mp done
  dsimp only at rest
  split at rest
  · contradiction
  · next used =>
    obtain ⟨handling, handled, rest⟩ := Option.bind_eq_some_iff.mp rest
    refine ⟨sm, handling, found, fun unused => ?_, handled, (some.inj rest).symm⟩
    by_contra other
    exact used ⟨unused, Bool.eq_false_iff.mpr other⟩

theorem handleAt_served_iff (served : service.Served)
    (done : service.handleAt slot world input = some next) :
    next.Served ↔ ∀ sm ∈ service.machines[slot]?, sm.Fine (service.contextOf slot world) input := by
  obtain ⟨sm, handling, found, used, handled, rfl⟩ := handleAt_eq_some done
  have noted : ({ sm with aclReported := sm.aclUp world input } : HandsetSm).Served :=
    Handling.served_of_same (served.machines sm (List.mem_of_getElem? found))
      ⟨rfl, rfl, rfl, rfl⟩ rfl rfl
  have kept := Handling.handle_served_iff noted used handled
  have same : ({ sm with aclReported := sm.aclUp world input } : HandsetSm).Fine
      (service.contextOf slot world) input ↔ sm.Fine (service.contextOf slot world) input := by
    cases input <;> exact Iff.rfl
  rw [found]
  constructor
  · intro after sm' member
    cases member
    refine same.mp (kept.mp (after.machines handling.sm ?_))
    exact List.mem_set (List.getElem?_eq_some_iff.mp found).1 handling.sm
  · intro fine
    refine ⟨fun sm' member => ?_, served.atOnce⟩
    rcases List.mem_or_eq_of_mem_set member with before | rfl
    · exact served.machines sm' before
    · exact kept.mpr (same.mpr (fine sm rfl))

theorem created_served {sm : HandsetSm} (served : sm.Served) (unused : sm.state = .null) :
    (sm.created device leAddr).Served := by
  have nobody := served.rested.unused unused
  have unseen : Unseen sm (sm.created device leAddr) :=
    ⟨(nobody .connect).symm, (nobody .disconnect).symm,
      (Option.toList_eq_nil_iff.mp (nobody .stop)).symm, rfl⟩
  exact (unseen.listed served.listed).settled rfl rfl rfl

section

variable (served : service.Served)

include served

theorem createSm_served (free : service.freeSlot = some slot) :
    (service.createSm slot device leAddr).Served := by
  refine ⟨fun sm member => ?_, served.atOnce⟩
  obtain ⟨index, found⟩ := List.mem_iff_getElem?.mp member
  rw [createSm, List.getElem?_modify] at found
  obtain ⟨old, before, rfl⟩ := map_eq_some_iff.mp found
  have kept := served.machines old (List.mem_of_getElem? before)
  split
  · next same =>
    subst same
    obtain ⟨bound, unused, -⟩ := List.findIdx?_eq_some_iff_getElem.mp free
    refine created_served kept (of_decide_eq_true ?_)
    rw [List.getElem?_eq_getElem bound] at before
    exact some.inj before ▸ unused
  · exact kept

theorem createFor_served
    (fresh : ∀ context sm, sm.state = .disconnected → HandsetSm.Fine context sm input)
    (done : service.createFor device leAddr world input = some next) : next.Served := by
  obtain ⟨slot, free, handled⟩ := Option.bind_eq_some_iff.mp done
  refine (handleAt_served_iff (createSm_served served free) handled).mpr fun sm created => ?_
  rw [createSm, List.getElem?_modify_eq] at created
  obtain ⟨old, -, rfl⟩ := map_eq_some_iff.mp created
  exact fresh _ _ rfl

theorem answerAtOnce_served {kind : Kind} {client : Task} {request : Entry} {make : Task → Entry}
    (asking : ∀ other task, asks other task request = decide (other = kind ∧ task = client))
    (nothing : ∀ other task, answers other task request = false) (confirms : Confirms kind make) :
    (service.answerAtOnce request (make client)).Served := by
  refine ⟨served.machines, ?_⟩
  have waits : Listed (fun other => if other = kind then [client] else [])
      (request :: service.log) := by
    refine Listed.ask served.atOnce asking nothing ?_ (fun task => ?_) fun other apart => ?_
    · rw [if_pos rfl]
      exact List.pairwise_singleton _ client
    · rw [if_pos rfl]
      exact List.mem_singleton.trans (or_iff_left List.not_mem_nil).symm
    · exact if_neg apart
  have answered : Listed (fun _ => [])
      (Requests.sendAll make (if kind = kind then [client] else []) (request :: service.log)) :=
    waits.complete confirms rfl fun other apart => (if_neg apart).symm
  rw [if_pos rfl] at answered
  exact answered

theorem step_served_iff (steps : service.step event = some next) :
    next.Served ↔ service.Fine event := by
  have byMachine {slot : Nat} {world : World} {input : Input}
      (handled : event.handled = some (slot, world, input))
      (done : service.handleAt slot world input = some next) :
      next.Served ↔ service.Fine event := by
    rw [handleAt_served_iff served done, Fine, handled]
    exact ⟨fun fine handled same => some.inj same ▸ fine, fun fine => fine _ rfl⟩
  have byNone (handled : event.handled = none) (after : next.Served) :
      next.Served ↔ service.Fine event := by
    refine iff_of_true after fun target member => ?_
    rw [handled] at member
    contradiction
  cases event with
  | connectReq found task addr device profiles world =>
    cases found with
    | some slot => exact byMachine rfl steps
    | none =>
      refine byNone rfl ?_
      replace steps : (if _ then _ else _) = some next := steps
      split at steps
      · refine createFor_served served ?_ steps
        exact fun _ _ state paging => nomatch state.symm.trans paging
      · cases steps
        exact answerAtOnce_served served asks_connectRequest
          (fun other _ => by cases other <;> rfl) (confirms_connectCfm addr .failed)
  | disconnectReq found task addr exclude world =>
    cases found with
    | some slot => exact byMachine rfl steps
    | none =>
      cases steps
      exact byNone rfl (answerAtOnce_served served asks_disconnectRequest
        (fun other _ => by cases other <;> rfl) (confirms_disconnectCfm addr .success))
  | stopConnect found task addr world =>
    cases found with
    | some slot => exact byMachine rfl steps
    | none =>
      cases steps
      exact byNone rfl (answerAtOnce_served served asks_stopConnect
        (fun other _ => by cases other <;> rfl) (confirms_connectStopCfm addr .disconnected))
  | tpConnectInd found device world =>
    cases found with
    | some slot => exact byMachine rfl steps
    | none =>
      refine byNone rfl ?_
      replace steps : (if _ then _ else _) = some next := steps
      split at steps
      · refine createFor_served served ?_ steps
        exact fun _ _ _ => trivial
      · exact some.inj steps ▸ served
  | connectedProfileInd found device profile world =>
    cases found with
    | some slot => exact byMachine rfl steps
    | none =>
      refine byNone rfl (createFor_served served ?_ steps)
      exact fun _ _ _ => trivial
  | bleTpConnectInd found device addr world =>
    cases found with
    | some slot => exact byMachine rfl steps
    | none =>
      refine byNone rfl (createFor_served served ?_ steps)
      exact fun _ _ _ => trivial
  | toMachine slot world input => exact byMachine rfl steps
  | connectableRequest =>
    cases steps
    exact byNone rfl ⟨served.machines, served.atOnce⟩
  | cancelConnectableRequest =>
    cases steps
    exact byNone rfl ⟨served.machines, served.atOnce⟩
  | configure maxConnections =>
    cases steps
    exact byNone rfl ⟨served.machines, served.atOnce⟩

end

theorem boot_served : HandsetSm.boot.Served := by
  refine ⟨⟨fun kind => ?_, fun kind client => trivial, fun kind client => ?_⟩, nofun, nofun,
    fun _ kind => ?_, nofun⟩
  · cases kind <;> exact List.nodup_nil
  · cases kind <;> exact iff_of_false List.not_mem_nil (Nat.lt_irrefl 0)
  · cases kind <;> rfl

variable {count maxConnections : Nat} {events : List Event}

theorem start_served : (start count maxConnections).Served := by
  refine ⟨fun sm member => ?_, fun _ => List.nodup_nil, fun _ _ => trivial, fun _ _ => ?_⟩
  · rw [List.eq_of_mem_replicate member]
    exact boot_served
  · exact iff_of_false List.not_mem_nil (Nat.lt_irrefl 0)

/-- As long as no event is one that a client is forgotten over, all clients are served, and
the next event keeps it so just when it is none either. -/
theorem run_served_iff
    (runs : runAllowed step Fine events (start count maxConnections) = some service) :
    service.Served ∧ ∀ event next, service.step event = some next →
      (next.Served ↔ service.Fine event) := by
  have served : service.Served :=
    (Reached.run .start runs).invariant start_served
      fun _ _ _ fine steps served => (step_served_iff served steps).mpr fine
  exact ⟨served, fun event next steps => step_served_iff served steps⟩

/-- The handset with the address 7 is not connected and does not answer when it is paged. -/
def outOfRange : World :=
  { deviceIsValid := true
    devicePaired := true
    reconnecting := false
    connectedProfiles := 0
    supportedProfilesNotConnected := 0
    isConnected := false
    isAclLocal := true
    isTpConnected := true
    connectAccepted := true
    stopConnectAccepted := true
    disconnectAccepted := true
    aclConnectAttemptLimit := 2
    unlimitedAclReconnection := false }

def paged : List Event :=
  [.connectReq none 1 7 (some 7) 1 outOfRange,
    .toMachine 0 outOfRange (.internal (.connectReq (some 7) 1)),
    .toMachine 0 outOfRange (.internal .connectAclComplete)]

theorem paged_served :
    ∃ service, runAllowed step Fine paged (start 1 2) = some service ∧
      (service.Served ∧ ∀ event next, service.step event = some next →
        (next.Served ↔ service.Fine event)) := by
  have found : (runAllowed step Fine paged (start 1 2)).isSome = true := by decide +kernel
  obtain ⟨service, runs⟩ := Option.isSome_iff_exists.mp found
  exact ⟨service, runs, run_served_iff runs⟩

def outlook (sm : HandsetSm) : HandsetState × List Task × List Internal × Nat :=
  (sm.state, sm.connectList, sm.queue, unanswered .connect 1 sm.log)

def stoppedEarly : List Event :=
  [.connectReq none 1 7 (some 7) 1 outOfRange, .stopConnect (some 0) 2 7 outOfRange,
    .toMachine 0 outOfRange (.internal (.connectStopReq (some 7)))]

def askedAgain : List Event :=
  paged ++ [Event.disconnectReq (some 0) 2 7 0 outOfRange,
    Event.connectReq (some 0) 1 7 (some 7) 1 outOfRange,
    Event.toMachine 0 outOfRange (.internal (.connectReq (some 7) 1))]

def leLost : List Event :=
  paged ++ [Event.bleTpConnectInd (some 0) (some 7) 9 outOfRange,
    Event.toMachine 0 outOfRange .bleTpDisconnectInd]

/-- The client 1 waits, and nothing comes that it waits for. -/
theorem forgotten_unserved :
    (∃ service, stoppedEarly.foldlM step (start 1 2) = some service ∧
      service.machines.map outlook = [(.disconnected, [1], [], 1)] ∧ ¬ service.Served) ∧
    (∃ service, askedAgain.foldlM step (start 1 2) = some service ∧
      service.machines.map outlook = [(.connectingBredrAcl, [1], [], 1)] ∧ ¬ service.Served) ∧
    ∃ service, leLost.foldlM step (start 1 2) = some service ∧
      service.machines.map outlook = [(.null, [], [], 1)] ∧ ¬ service.Served := by
  refine ⟨⟨_, rfl, rfl, fun served => ?_⟩, ⟨_, rfl, rfl, fun served => ?_⟩,
    ⟨_, rfl, rfl, fun served => ?_⟩⟩
  · obtain ⟨message, member, -⟩ := (served.machines _ List.mem_cons_self).rested.connect rfl nofun
    exact List.not_mem_nil member
  · obtain ⟨message, member, -⟩ := (served.machines _ List.mem_cons_self).rested.paging rfl
    exact List.not_mem_nil member
  · exact List.not_mem_nil
      (((served.machines _ List.mem_cons_self).listed.waits .connect 1).mpr Nat.one_pos)

end Service

end HeadsetAdk.Handset
