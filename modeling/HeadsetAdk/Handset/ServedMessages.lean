import HeadsetAdk.Handset.ServedClients

/-! # A machine's clients as it takes its messages -/

namespace HeadsetAdk.Handset

open TaskLists
open Option (bind_eq_some_iff map_eq_some_iff some.inj toList)

namespace HandsetSm

variable {context : Context} {sm : HandsetSm}

theorem IsListed.deInit (listed : sm.IsListed) (connect : sm.connectList = [])
    (disconnect : sm.disconnectList = []) (stop : sm.connectStopTask = none) :
    sm.deInit.Served := by
  refine ⟨Unseen.listed ⟨connect.symm, disconnect.symm, rfl, rfl⟩ listed, nofun, nofun,
    fun _ kind => ?_, nofun⟩
  cases kind with
  | connect => rfl
  | disconnect => rfl
  | stop => exact congrArg toList stop

theorem deleteDeviceIfNotPaired_unseen (context : Context) (sm : HandsetSm) :
    Unseen sm (sm.deleteDeviceIfNotPaired context) := by
  rw [deleteDeviceIfNotPaired]
  split
  · exact .refl sm
  · exact ⟨rfl, rfl, rfl, rfl⟩

theorem deleteDeviceIfNotPaired_state (context : Context) (sm : HandsetSm) :
    (sm.deleteDeviceIfNotPaired context).state = sm.state := by
  rw [deleteDeviceIfNotPaired]
  split
  · rfl
  · rfl

end HandsetSm

namespace Handling

open HandsetSm

variable {context : Context} {handling handling' : Handling}

section

variable (listed : handling.sm.IsListed)

include listed

theorem enterDisconnected_served (state : handling.sm.state = .disconnected) :
    (handling.enterDisconnected context).sm.Served := by
  have stopped := listed.completeConnectStopRequests .disconnected
  have nobody := completeConnectStopRequests_stopTask handling.sm .disconnected
  have answered := stopped.completeConnectRequests .failed
  by_cases all : handling.sm.allConnectionsDisconnected context false = true
  · rw [enterDisconnected, if_pos all, if_pos all, enableConnectable_sm]
    have unseen := deleteDeviceIfNotPaired_unseen context
      (((handling.sm.completeConnectStopRequests .disconnected).completeConnectRequests
        .failed).completeDisconnectRequests .success)
    exact (unseen.listed (answered.completeDisconnectRequests .success)).deInit
      unseen.connectList unseen.disconnectList (unseen.connectStopTask.trans nobody)
  · rw [enterDisconnected, if_neg all, if_neg all, enableConnectable_sm]
    have unseen := deleteDeviceIfNotPaired_unseen context
      ((handling.sm.completeConnectStopRequests .disconnected).completeConnectRequests .failed)
    refine (unseen.listed answered).settled ?_ unseen.connectList
      (unseen.connectStopTask.trans nobody)
    rw [deleteDeviceIfNotPaired_state]
    change stable (handling.sm.completeConnectStopRequests .disconnected).state = true
    rw [completeConnectStopRequests_state, state]
    rfl

theorem enterConnectedBredr_served (state : handling.sm.state = .connectedBredr)
    (done : handling.enterConnectedBredr context = some handling') : handling'.sm.Served := by
  rw [enterConnectedBredr] at done
  split at done
  · cases done
    rw [disableConnectable_sm]
    refine IsListed.settled (((listed.completeConnectStopRequests
      .connected).completeConnectRequests .success).completeDisconnectRequests .failed) ?_ rfl
      (completeConnectStopRequests_stopTask handling.sm .connected)
    change stable (handling.sm.completeConnectStopRequests .connected).state = true
    rw [completeConnectStopRequests_state, state]
    rfl
  · contradiction

theorem changeState_listed {next : HandsetState}
    (done : handling.changeState context next = some handling') :
    handling'.sm.IsListed ∧ handling'.sm.state = next := by
  rw [changeState] at done
  split at done
  · contradiction
  · cases done
    have unseen := exitState_unseen context handling.sm next
    exact ⟨Unseen.listed { unseen with } listed, rfl⟩

theorem setDisconnected_served
    (done : handling.setDisconnected context = some handling') : handling'.sm.Served := by
  obtain ⟨changed, left, rfl⟩ := map_eq_some_iff.mp done
  obtain ⟨listed', state⟩ := changeState_listed listed left
  exact enterDisconnected_served listed' state

theorem setConnectedBredr_served
    (done : handling.setConnectedBredr context = some handling') : handling'.sm.Served := by
  obtain ⟨changed, left, entered⟩ := bind_eq_some_iff.mp done
  obtain ⟨listed', state⟩ := changeState_listed listed left
  exact enterConnectedBredr_served listed' state entered

theorem setConnectingBredrAcl_served
    (done : handling.setConnectingBredrAcl context = some handling') : handling'.sm.Served := by
  obtain ⟨changed, left, rfl⟩ := map_eq_some_iff.mp done
  obtain ⟨listed', state⟩ := changeState_listed listed left
  have paging : changed.sm.connectAcl.state = .connectingBredrAcl := state
  refine ⟨Unseen.listed ⟨rfl, rfl, rfl, rfl⟩ listed', ?_, ?_, ?_, fun _ => ?_⟩
  · rw [paging]
    nofun
  · rw [paging]
    nofun
  · rw [paging]
    nofun
  · exact ⟨.connectAclComplete, List.mem_append_right _ List.mem_cons_self, rfl⟩

theorem connectRequestedProfiles_served (state : handling.sm.state = .connectingBredrProfiles)
    (done : handling.connectRequestedProfiles context = some handling') : handling'.sm.Served := by
  rw [connectRequestedProfiles] at done
  split at done
  · split at done
    · exact setConnectedBredr_served listed done
    · split at done
      · exact some.inj done ▸ listed.busy (.inl state)
      · contradiction
  · exact some.inj done ▸ listed.busy (.inl state)

theorem enterConnectingBredrProfiles_served (state : handling.sm.state = .connectingBredrProfiles)
    (done : handling.enterConnectingBredrProfiles context = some handling') :
    handling'.sm.Served := by
  obtain ⟨waiting, asked, rfl⟩ := map_eq_some_iff.mp done
  rw [disableConnectable_sm]
  rw [startProfiles] at asked
  split at asked
  · refine connectRequestedProfiles_served ?_ ?_ asked
    · exact Unseen.listed ⟨rfl, rfl, rfl, rfl⟩ listed
    · exact state
  · split at asked
    · cases asked
      exact IsListed.busy (Unseen.listed ⟨rfl, rfl, rfl, rfl⟩ listed) (.inl state)
    · cases asked
      exact IsListed.busy (Unseen.listed ⟨rfl, rfl, rfl, rfl⟩ listed) (.inl state)

theorem setConnectingBredrProfiles_served
    (done : handling.setConnectingBredrProfiles context = some handling') :
    handling'.sm.Served := by
  obtain ⟨changed, left, entered⟩ := bind_eq_some_iff.mp done
  obtain ⟨listed', state⟩ := changeState_listed listed left
  exact enterConnectingBredrProfiles_served listed' state entered

theorem setStopConnectingBredrProfiles_served
    (done : handling.setStopConnectingBredrProfiles context = some handling') :
    handling'.sm.Served := by
  obtain ⟨changed, left, entered⟩ := bind_eq_some_iff.mp done
  obtain ⟨listed', state⟩ := changeState_listed listed left
  rw [enterStopConnectingBredrProfiles] at entered
  split at entered
  · exact some.inj entered ▸ listed'.busy (.inr (.inr state))
  · split at entered
    · exact setConnectedBredr_served listed' entered
    · exact setDisconnected_served listed' entered

theorem tryDisconnectingBredr_served (state : handling.sm.state = .disconnectingBredr)
    (done : handling.tryDisconnectingBredr context = some handling') : handling'.sm.Served := by
  have excluding : ({ handling.sm with disconnectionProfilesExcluded := 0 } : HandsetSm).IsListed :=
    Unseen.listed ⟨rfl, rfl, rfl, rfl⟩ listed
  rw [tryDisconnectingBredr] at done
  split at done
  · split at done
    · split at done
      · split at done
        · cases done
          exact IsListed.busy (Unseen.listed ⟨rfl, rfl, rfl, rfl⟩ listed) (.inr (.inl state))
        · contradiction
      · exact setConnectedBredr_served (excluding.completeDisconnectRequests .success) done
    · dsimp only at done
      split at done
      · exact some.inj done ▸ excluding.busy (.inr (.inl state))
      · refine setDisconnected_served ?_ done
        exact excluding
  · exact setDisconnected_served listed done

theorem setDisconnectingBredr_served
    (done : handling.setDisconnectingBredr context = some handling') : handling'.sm.Served := by
  obtain ⟨changed, left, entered⟩ := bind_eq_some_iff.mp done
  obtain ⟨listed', state⟩ := changeState_listed listed left
  exact tryDisconnectingBredr_served listed' state entered

end

section Messages

variable {message : Internal} {device : Option Bdaddr} {profiles exclude : Profiles}
  {sm sm' : HandsetSm}

theorem served_of_kept (served : sm.Served) (unseen : Unseen sm sm') (state : sm'.state = sm.state)
    (kept : ∀ message ∈ sm.queue, (stable sm.state = true ∧
        (message.isConnectReq = true ∨ message.isConnectStopReq = true)) ∨
        (sm.state = .connectingBredrAcl ∧ Pages message = true) → message ∈ sm'.queue) :
    sm'.Served := by
  refine ⟨unseen.listed served.listed, fun settled waits => ?_, fun settled waits => ?_,
    fun unused kind => ?_, fun paging => ?_⟩
  · rw [state] at settled
    rw [unseen.connectList] at waits
    obtain ⟨message, member, asks⟩ := served.rested.connect settled waits
    exact ⟨message, kept message member (.inl ⟨settled, .inl asks⟩), asks⟩
  · rw [state] at settled
    rw [unseen.connectStopTask] at waits
    obtain ⟨message, member, asks⟩ := served.rested.stop settled waits
    exact ⟨message, kept message member (.inl ⟨settled, .inr asks⟩), asks⟩
  · rw [state] at unused
    have empty := served.rested.unused unused kind
    cases kind with
    | connect => exact unseen.connectList.trans empty
    | disconnect => exact unseen.disconnectList.trans empty
    | stop => exact (congrArg toList unseen.connectStopTask).trans empty
  · rw [state] at paging
    obtain ⟨message, member, pages⟩ := served.rested.paging paging
    exact ⟨message, kept message member (.inr ⟨paging, pages⟩), pages⟩

theorem taken_listed (listed : handling.sm.IsListed) (message : Internal) :
    (handling.taken message).sm.IsListed :=
  Unseen.listed ⟨rfl, rfl, rfl, rfl⟩ listed

theorem taken_served (served : handling.sm.Served)
    (idle : stable handling.sm.state = true →
      message.isConnectReq = false ∧ message.isConnectStopReq = false)
    (other : handling.sm.state = .connectingBredrAcl → Pages message = false) :
    (handling.taken message).sm.Served := by
  refine served_of_kept served ⟨rfl, rfl, rfl, rfl⟩ rfl fun message' member needed => ?_
  refine (List.mem_erase_of_ne fun same => ?_).mpr member
  subst same
  rcases needed with ⟨settled, connects | stops⟩ | ⟨paging, pages⟩
  · exact absurd ((idle settled).1.symm.trans connects) Bool.false_ne_true
  · exact absurd ((idle settled).2.symm.trans stops) Bool.false_ne_true
  · exact absurd ((other paging).symm.trans pages) Bool.false_ne_true

theorem served_of_same (served : sm.Served) (unseen : Unseen sm sm') (state : sm'.state = sm.state)
    (queue : sm'.queue = sm.queue) : sm'.Served :=
  served_of_kept served unseen state fun _ member _ => queue ▸ member

theorem listed_paging (listed : sm.IsListed) (state : sm.state = .connectingBredrAcl)
    (pages : ∃ message ∈ sm.queue, Pages message = true) : sm.Served := by
  refine ⟨listed, ?_, ?_, ?_, fun _ => pages⟩
  · rw [state]
    nofun
  · rw [state]
    nofun
  · rw [state]
    nofun

theorem beginConnecting_served (listed : handling.sm.IsListed)
    (done : handling.beginConnecting context profiles = some handling') :
    handling'.sm.Served := by
  have asking : ({ handling.sm with profilesRequested := profiles } : HandsetSm).IsListed :=
    Unseen.listed ⟨rfl, rfl, rfl, rfl⟩ listed
  rw [beginConnecting] at done
  split at done
  · split at done
    · refine setConnectingBredrProfiles_served ?_ done
      exact asking
    · refine setConnectedBredr_served ?_ done
      exact asking
  · refine setConnectingBredrAcl_served ?_ done
    exact asking

theorem completeConnectRequests_served (listed : sm.IsListed) (state : sm.state = .connectedBredr)
    (stops : sm.connectStopTask ≠ none → ∃ message ∈ sm.queue, message.isConnectStopReq = true)
    (status : Status) : (sm.completeConnectRequests status).Served := by
  have connected : (sm.completeConnectRequests status).state = .connectedBredr := state
  refine ⟨listed.completeConnectRequests status, fun _ waits => absurd rfl waits,
    fun _ waits => ?_, ?_, ?_⟩
  · obtain ⟨message, member, asks⟩ := stops waits
    refine ⟨message, List.mem_filter.mpr ⟨member, ?_⟩, asks⟩
    cases message with
    | connectStopReq device => rfl
    | connectReq device profiles => exact asks
    | disconnectReq exclude => exact absurd asks Bool.false_ne_true
    | connectAclComplete => exact absurd asks Bool.false_ne_true
    | connectAclRetryReq => exact asks
    | connectProfilesReq => exact absurd asks Bool.false_ne_true
  · rw [connected]
    nofun
  · rw [connected]
    nofun

section

variable (served : handling.sm.Served)

include served

theorem handleInternalConnectReq_served
    (done : (handling.taken (.connectReq device profiles)).handleInternalConnectReq context
      device profiles = some handling') : handling'.sm.Served := by
  have listed := taken_listed served.listed (.connectReq device profiles)
  rw [handleInternalConnectReq.eq_def] at done
  split at done
  · contradiction
  · split at done
    · exact beginConnecting_served listed done
    · exact beginConnecting_served listed done
    · next state =>
      dsimp only at done
      split at done
      · refine setConnectingBredrProfiles_served ?_ done
        exact Unseen.listed ⟨rfl, rfl, rfl, rfl⟩ listed
      · cases done
        refine completeConnectRequests_served listed state (fun waits => ?_) .success
        have settled : stable handling.sm.state = true := by
          rw [show handling.sm.state = .connectedBredr from state]
          rfl
        obtain ⟨message, member, stops⟩ := served.rested.stop settled waits
        refine ⟨message, (List.mem_erase_of_ne fun same => ?_).mpr member, stops⟩
        rw [same] at stops
        exact Bool.false_ne_true stops
    · next notDisconnected notDisconnecting notConnected =>
      cases done
      refine taken_served served (fun settled => ?_) fun _ => rfl
      exfalso
      rw [show handling.sm.state = (handling.taken (.connectReq device profiles)).sm.state
        from rfl] at settled
      cases state : (handling.taken (.connectReq device profiles)).sm.state with
      | disconnected => exact notDisconnected state
      | connectedBredr => exact notConnected state
      | _ =>
        rw [state] at settled
        exact absurd settled Bool.false_ne_true

theorem disconnectBredr_served
    (done : (handling.taken (.disconnectReq exclude)).disconnectBredr context exclude =
      some handling') : handling'.sm.Served := by
  have listed := taken_listed served.listed (.disconnectReq exclude)
  have excluding : ({ (handling.taken (.disconnectReq exclude)).sm with
      disconnectionProfilesExcluded := exclude } : HandsetSm).IsListed :=
    Unseen.listed ⟨rfl, rfl, rfl, rfl⟩ listed
  rw [disconnectBredr.eq_def] at done
  dsimp only at done
  split at done
  · next state =>
    have settled : stable handling.sm.state = true := by
      rw [show handling.sm.state = .disconnected from state]
      rfl
    have kept : (handling.taken (.disconnectReq exclude)).sm.Served :=
      taken_served served (fun _ => ⟨rfl, rfl⟩) fun paging =>
        absurd (paging.symm.trans state) nofun
    split at done
    · exact some.inj done ▸ kept
    · cases done
      refine ⟨listed.completeDisconnectRequests .success, fun _ waits => ?_, fun _ waits => ?_,
        fun unused => absurd (unused.symm.trans state) nofun,
        fun paging => absurd (paging.symm.trans state) nofun⟩
      · obtain ⟨message, member, asks⟩ := kept.rested.connect settled waits
        refine ⟨message, List.mem_filter.mpr ⟨member, ?_⟩, asks⟩
        cases message with
        | connectReq => rfl
        | _ => exact absurd asks Bool.false_ne_true
      · obtain ⟨message, member, asks⟩ := kept.rested.stop settled waits
        refine ⟨message, List.mem_filter.mpr ⟨member, ?_⟩, asks⟩
        cases message with
        | connectStopReq => rfl
        | _ => exact absurd asks Bool.false_ne_true
  · exact setDisconnected_served listed done
  · refine setDisconnectingBredr_served ?_ done
    exact excluding
  · refine setDisconnectingBredr_served ?_ done
    exact excluding
  · split at done
    · exact setDisconnected_served listed done
    · refine setDisconnectingBredr_served ?_ done
      exact excluding
  · next notAcl _ _ _ =>
    cases done
    exact taken_served served (fun _ => ⟨rfl, rfl⟩) fun paging => absurd paging notAcl

theorem handleInternalDisconnectReq_served
    (done : (handling.taken (.disconnectReq exclude)).handleInternalDisconnectReq context
      exclude = some handling') : handling'.sm.Served := by
  obtain ⟨bredr, disconnecting, rfl⟩ := map_eq_some_iff.mp done
  have kept := disconnectBredr_served served disconnecting
  refine served_of_same kept (bleDisconnectIfConnected_unseen context bredr.sm) ?_ ?_
  · dsimp only
    rw [bleDisconnectIfConnected_eq]
    split
    · rfl
    · rfl
  · dsimp only
    rw [bleDisconnectIfConnected_eq]
    split
    · rfl
    · rfl

theorem handleInternalConnectAclComplete_served
    (done : (handling.taken .connectAclComplete).handleInternalConnectAclComplete context =
      some handling') : handling'.sm.Served := by
  have listed := taken_listed served.listed .connectAclComplete
  rw [handleInternalConnectAclComplete] at done
  split at done
  · next state =>
    split at done
    · split at done
      · split at done
        · split at done
          · exact setConnectingBredrProfiles_served listed done
          · exact setConnectedBredr_served listed done
        · split at done
          · cases done
            refine listed_paging (Unseen.listed ⟨rfl, rfl, rfl, rfl⟩ listed) state ?_
            exact ⟨.connectAclRetryReq, List.mem_append_right _ List.mem_cons_self, rfl⟩
          · exact setDisconnected_served listed done
      · exact setDisconnected_served listed done
    · exact setDisconnected_served listed done
  · next notAcl =>
    cases done
    exact taken_served served (fun _ => ⟨rfl, rfl⟩) fun paging => absurd paging notAcl

theorem completeConnectStopRequests_served
    (settled : stable handling.sm.state = true) (status : Status) :
    ((handling.taken (.connectStopReq device)).sm.completeConnectStopRequests status).Served := by
  have listed := taken_listed served.listed (.connectStopReq device)
  refine ⟨listed.completeConnectStopRequests status, fun _ waits => ?_, fun _ waits => ?_,
    fun unused => ?_, fun paging => ?_⟩
  · rw [completeConnectStopRequests_eq] at waits ⊢
    obtain ⟨message, member, asks⟩ := served.rested.connect settled waits
    refine ⟨message, (List.mem_erase_of_ne fun same => ?_).mpr member, asks⟩
    rw [same] at asks
    exact Bool.false_ne_true asks
  · exact absurd (completeConnectStopRequests_stopTask _ status) waits
  · rw [completeConnectStopRequests_state] at unused
    rw [show handling.sm.state = .null from unused] at settled
    exact absurd settled Bool.false_ne_true
  · rw [completeConnectStopRequests_state] at paging
    rw [show handling.sm.state = .connectingBredrAcl from paging] at settled
    exact absurd settled Bool.false_ne_true

theorem handleInternalConnectStop_served
    (done : (handling.taken (.connectStopReq device)).handleInternalConnectStop context device =
      some handling') : handling'.sm.Served := by
  have listed := taken_listed served.listed (.connectStopReq device)
  rw [handleInternalConnectStop.eq_def] at done
  split at done
  · contradiction
  · split at done
    · exact setDisconnected_served listed done
    · exact setStopConnectingBredrProfiles_served listed done
    · next state =>
      cases done
      refine completeConnectStopRequests_served served ?_ .connected
      rw [show handling.sm.state = .disconnected from state]
      rfl
    · next state =>
      cases done
      refine completeConnectStopRequests_served served ?_ .connected
      rw [show handling.sm.state = .connectedBredr from state]
      rfl
    · next notAcl _ notDisconnected notConnected =>
      cases done
      refine taken_served served (fun settled => ?_) fun paging => absurd paging notAcl
      rw [show handling.sm.state = (handling.taken (.connectStopReq device)).sm.state
        from rfl] at settled
      cases state : (handling.taken (.connectStopReq device)).sm.state with
      | disconnected => exact absurd state notDisconnected
      | connectedBredr => exact absurd state notConnected
      | _ =>
        rw [state] at settled
        exact absurd settled Bool.false_ne_true

theorem handleInternalConnectAclRetryReq_served :
    (handling.taken .connectAclRetryReq).handleInternalConnectAclRetryReq.sm.Served := by
  have listed := taken_listed served.listed .connectAclRetryReq
  rw [handleInternalConnectAclRetryReq]
  split
  · next state =>
    refine listed_paging (Unseen.listed ⟨rfl, rfl, rfl, rfl⟩ listed) state ?_
    exact ⟨.connectAclComplete, List.mem_append_right _ List.mem_cons_self, rfl⟩
  · next notAcl =>
    exact taken_served served (fun _ => ⟨rfl, rfl⟩) fun paging => absurd paging notAcl

theorem handleInternalConnectProfilesReq_served
    (done : (handling.taken .connectProfilesReq).handleInternalConnectProfilesReq context =
      some handling') : handling'.sm.Served := by
  have listed := taken_listed served.listed .connectProfilesReq
  rw [handleInternalConnectProfilesReq] at done
  split at done
  · next state =>
    split at done
    · exact connectRequestedProfiles_served listed state done
    · cases done
      exact IsListed.busy (Unseen.listed ⟨rfl, rfl, rfl, rfl⟩ listed) (.inl state)
  · cases done
    exact taken_served served (fun _ => ⟨rfl, rfl⟩) fun _ => rfl

theorem handleInternal_served (done : handling.handleInternal context message = some handling') :
    handling'.sm.Served := by
  rw [handleInternal.eq_def] at done
  split at done
  · dsimp only at done
    split at done
    · exact handleInternalConnectReq_served served done
    · exact handleInternalDisconnectReq_served served done
    · exact handleInternalConnectAclComplete_served served done
    · exact handleInternalConnectStop_served served done
    · exact some.inj done ▸ handleInternalConnectAclRetryReq_served served
    · exact handleInternalConnectProfilesReq_served served done
  · contradiction

end

end Messages

end Handling

end HeadsetAdk.Handset
