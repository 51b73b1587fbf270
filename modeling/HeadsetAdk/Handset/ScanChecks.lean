import HeadsetAdk.Handset.ServedClients

/-! # What machines do about page scanning -/

namespace HeadsetAdk.Handset

open Option (bind_eq_some_iff map_eq_some_iff some.inj)

/-- What a machine does about page scanning: nothing, or it enables it where it may, or it
disables it where it must. -/
inductive Rescan
  | leave
  | enable
  | disable
deriving DecidableEq

/-- Page scanning afterwards, with the number of other machines that count as connected. -/
def Connectable.rescan (connectable : Connectable) (context : Context) : Rescan → Connectable
  | .leave => connectable
  | .enable =>
      if context.maxConnections ≤ context.otherConnections then connectable
      else connectable.enableBredr true
  | .disable =>
      if context.maxConnections ≤ context.otherConnections + 1 then connectable.enableBredr false
      else connectable

namespace HandsetSm

section Checks

variable (context : Context) (sm : HandsetSm)

def disconnectingRescan : Rescan :=
  let profiles := sm.profilesRequested ||| sm.connectedProfiles context
  if (sm.deviceIfValid context).isSome then
    if profiles ≠ 0 then
      if profiles &&& ~~~ sm.disconnectionProfilesExcluded ≠ 0 then .leave else .disable
    else if sm.aclConnected context then .leave else .enable
  else .enable

def stoppingRescan : Rescan :=
  let valid := (sm.deviceIfValid context).isSome
  if valid && context.world.stopConnectAccepted then .leave
  else if valid && sm.aclConnected context then .disable
  else .enable

def leavingRescan : Rescan :=
  if sm.allConnectionsDisconnected context true then .enable else .leave

def settlingRescan (success : Bool) : Rescan :=
  if success = true ∨ profileImpliesBrEdr (sm.connectedProfiles context) = true then .disable
  else if sm.allConnectionsDisconnected context true then .enable
  else .disable

def aclCompleteRescan : Rescan :=
  if sm.state = .connectingBredrAcl then
    if (sm.deviceIfValid context).isSome ∧ sm.checkHandsetCanConnect context = true then
      if context.world.isConnected then .disable
      else if sm.aclAttempts < context.world.aclConnectAttemptLimit ∨
          (context.world.reconnecting = true ∧ context.world.unlimitedAclReconnection = true) then
        .leave
      else .enable
    else .enable
  else .leave

def connectedRescan : Rescan :=
  if sm.areAllRequestedProfilesConnected context then .disable else .leave

def internalRescan : Internal → Rescan
  | .connectReq _ profiles =>
      match sm.state with
      | .disconnected => if context.world.isConnected then .disable else .leave
      | .disconnectingBredr => if context.world.isConnected then .disable else .leave
      | .connectedBredr =>
          if sm.connectedProfiles context &&& profiles ≠ profiles then .disable else .leave
      | _ => .leave
  | .disconnectReq exclude =>
      let excluding := { sm with disconnectionProfilesExcluded := exclude }
      match sm.state with
      | .connectingBredrAcl => .enable
      | .stopConnectingBredrProfiles => excluding.disconnectingRescan context
      | .connectingBredrProfiles => excluding.disconnectingRescan context
      | .connectedBredr =>
          if sm.allConnectionsDisconnected context true then .enable
          else excluding.disconnectingRescan context
      | _ => .leave
  | .connectAclComplete => sm.aclCompleteRescan context
  | .connectStopReq _ =>
      match sm.state with
      | .connectingBredrAcl => .enable
      | .connectingBredrProfiles => sm.stoppingRescan context
      | _ => .leave
  | .connectAclRetryReq => .leave
  | .connectProfilesReq =>
      if sm.state = .connectingBredrProfiles ∧ context.world.devicePaired = true ∧
          (sm.deviceIfValid context).isSome then
        sm.connectedRescan context
      else .leave

/-- What the machine does about page scanning as it handles the input. -/
def rescan : Input → Rescan
  | .internal message => sm.internalRescan context message
  | .connectProfilesCfm success =>
      match sm.state with
      | .stopConnectingBredrProfiles => sm.settlingRescan context success
      | .connectingBredrProfiles => sm.settlingRescan context success
      | .disconnectingBredr => sm.leavingRescan context
      | _ => .leave
  | .disconnectProfilesCfm success =>
      if sm.state = .disconnectingBredr ∧ success = true then sm.disconnectingRescan context
      else .leave
  | .connectedProfileInd device profile =>
      match sm.state with
      | .disconnected => if profileImpliesBrEdr profile then .disable else .leave
      | .connectingBredrProfiles => (sm.setDeviceIfNone (some device)).connectedRescan context
      | .stopConnectingBredrProfiles =>
          (sm.setDeviceIfNone (some device)).connectedRescan context
      | _ => .leave
  | .disconnectedProfileInd _ =>
      match sm.state with
      | .connectingBredrAcl => sm.leavingRescan context
      | .connectingBredrProfiles => sm.leavingRescan context
      | .stopConnectingBredrProfiles => sm.leavingRescan context
      | .connectedBredr => sm.leavingRescan context
      | _ => .leave
  | .tpConnectInd _ =>
      if sm.state = .disconnected then .disable else .leave
  | .tpDisconnectInd _ reason =>
      if (sm.deviceIfValid context).isSome ∧ (sm.allConnectionsDisconnected context true = true ∨
          reason = .connTermLocalHost) then
        match sm.state with
        | .connectingBredrProfiles => sm.stoppingRescan context
        | .connectingBredrAcl => .enable
        | .connectedBredr => .enable
        | .disconnectingBredr => .enable
        | _ => .leave
      else .leave
  | _ => .leave

end Checks

end HandsetSm

namespace Handling

open HandsetSm

variable {context : Context} {handling handling' after : Handling} {rescan : Rescan}

/-- The machine does this about page scanning, and keeps what was reported of its ACL. -/
structure Rescans (context : Context) (rescan : Rescan) (handling handling' : Handling) :
    Prop where
  connectable : handling'.connectable = handling.connectable.rescan context rescan
  reported : (handling.sm.aclReported = true → handling.sm.aclConnected context = true) →
    handling'.sm.aclReported = handling.sm.aclReported

/-- Nothing is different that page scanning may depend on. -/
structure Alike (handling handling' : Handling) : Prop where
  connectable : handling'.connectable = handling.connectable
  handsetDevice : handling'.sm.handsetDevice = handling.sm.handsetDevice
  reported : handling'.sm.aclReported = handling.sm.aclReported

theorem Rescans.since (rescans : Rescans context rescan handling' after)
    (alike : Alike handling handling') : Rescans context rescan handling after := by
  refine ⟨alike.connectable ▸ rescans.connectable, fun up => ?_⟩
  refine (rescans.reported fun reported => ?_).trans alike.reported
  rw [aclConnected, alike.handsetDevice]
  exact up (alike.reported.symm.trans reported)

theorem Rescans.kept (done : some handling = some handling') :
    Rescans context .leave handling handling' :=
  some.inj done ▸ ⟨rfl, fun _ => rfl⟩

theorem Rescans.ite {condition : Prop} [Decidable condition] {yes no : Option Handling}
    {rescan' : Rescan} (done : (if condition then yes else no) = some handling')
    (holds : condition → yes = some handling' → Rescans context rescan handling handling')
    (fails : ¬ condition → no = some handling' → Rescans context rescan' handling handling') :
    Rescans context (if condition then rescan else rescan') handling handling' := by
  by_cases here : condition
  · rw [if_pos here] at done ⊢
    exact holds here done
  · rw [if_neg here] at done ⊢
    exact fails here done

theorem exitState_eq (context : Context) (sm : HandsetSm) (next : HandsetState) :
    ∃ leState queue aclAttempts, sm.exitState context next =
      { sm with leState := leState, queue := queue, aclAttempts := aclAttempts } := by
  rw [exitState.eq_def]
  split
  · split
    · rw [bleDisconnectIfConnected_eq]
      split <;> exact ⟨_, _, _, rfl⟩
    · exact ⟨_, _, _, rfl⟩
  all_goals exact ⟨_, _, _, rfl⟩

variable {next : HandsetState} {sm sm' : HandsetSm} {success : Bool}
  {profiles exclude profile : Profiles} {device : Bdaddr}

theorem changeState_eq (done : handling.changeState context next = some handling') :
    ∃ leState queue aclAttempts, handling' = { handling with
        sm := { handling.sm with
          leState := leState
          queue := queue
          aclAttempts := aclAttempts
          state := next } } := by
  rw [changeState] at done
  split at done
  · contradiction
  · cases done
    obtain ⟨leState, queue, aclAttempts, same⟩ := exitState_eq context handling.sm next
    refine ⟨leState, queue, aclAttempts, ?_⟩
    rw [same]

theorem changeState_alike (done : handling.changeState context next = some handling') :
    Alike handling handling' ∧ handling'.sm.state = next := by
  obtain ⟨leState, queue, aclAttempts, rfl⟩ := changeState_eq done
  exact ⟨⟨rfl, rfl, rfl⟩, rfl⟩

theorem enableConnectable_connectable (apart : handling.sm.isBredrAclConnected = false) :
    (handling.enableConnectable context).connectable =
      handling.connectable.rescan context .enable := by
  have count : handling.sm.maxBredrAclConnectionsReached context =
      decide (context.maxConnections ≤ context.otherConnections) := by
    rw [maxBredrAclConnectionsReached, apart]
    rfl
  rw [enableConnectable, count, Connectable.rescan]
  split
  · next reached => rw [if_pos (of_decide_eq_true reached)]
  · next notReached => rw [if_neg (of_decide_eq_false (Bool.eq_false_iff.mpr notReached))]

theorem disableConnectable_connectable (counts : handling.sm.isBredrAclConnected = true) :
    (handling.disableConnectable context).connectable =
      handling.connectable.rescan context .disable := by
  have count : handling.sm.maxBredrAclConnectionsReached context =
      decide (context.maxConnections ≤ context.otherConnections + 1) := by
    rw [maxBredrAclConnectionsReached, counts]
    rfl
  rw [disableConnectable, count, Connectable.rescan]
  split
  · next reached => rw [if_pos (of_decide_eq_true reached)]
  · next notReached => rw [if_neg (of_decide_eq_false (Bool.eq_false_iff.mpr notReached))]

theorem rescan_disable_twice (connectable : Connectable) (context : Context) :
    (connectable.rescan context .disable).rescan context .disable =
      connectable.rescan context .disable := by
  obtain ⟨allow, enabled⟩ := connectable
  simp only [Connectable.rescan]
  split
  · cases enabled <;> rfl
  · rfl

structure Stays (sm sm' : HandsetSm) : Prop where
  state : sm'.state = sm.state
  reported : sm'.aclReported = sm.aclReported

theorem Stays.trans {sm'' : HandsetSm} (first : Stays sm sm') (second : Stays sm' sm'') :
    Stays sm sm'' :=
  ⟨second.state.trans first.state, second.reported.trans first.reported⟩

theorem Stays.isBredrAclConnected (stays : Stays sm sm') :
    sm'.isBredrAclConnected = sm.isBredrAclConnected := by
  rw [HandsetSm.isBredrAclConnected, stays.state, HandsetSm.isBredrAclConnected]

theorem completeConnectStopRequests_stays (sm : HandsetSm) (status : Status) :
    Stays sm (sm.completeConnectStopRequests status) := by
  rw [completeConnectStopRequests_eq]
  exact ⟨rfl, rfl⟩

theorem deleteDeviceIfNotPaired_stays (context : Context) (sm : HandsetSm) :
    Stays sm (sm.deleteDeviceIfNotPaired context) := by
  rw [deleteDeviceIfNotPaired]
  split
  · exact ⟨rfl, rfl⟩
  · exact ⟨rfl, rfl⟩

theorem enterDisconnected_rescans (state : handling.sm.state = .disconnected) :
    Rescans context .enable handling (handling.enterDisconnected context) := by
  have apart : handling.sm.isBredrAclConnected = false := by
    rw [HandsetSm.isBredrAclConnected, state]
  have stopped : Stays handling.sm ((handling.sm.completeConnectStopRequests
      .disconnected).completeConnectRequests .failed) :=
    (completeConnectStopRequests_stays handling.sm .disconnected).trans ⟨rfl, rfl⟩
  by_cases all : handling.sm.allConnectionsDisconnected context false = true
  · have answered : Stays handling.sm (((handling.sm.completeConnectStopRequests
        .disconnected).completeConnectRequests .failed).completeDisconnectRequests .success) :=
      stopped.trans ⟨rfl, rfl⟩
    have stays := answered.trans (deleteDeviceIfNotPaired_stays context _)
    rw [enterDisconnected, if_pos all, if_pos all]
    refine ⟨enableConnectable_connectable (stays.isBredrAclConnected.trans apart), fun up => ?_⟩
    -- nothing of the handset is connected, so that its ACL was not reported
    have down : ¬ handling.sm.aclConnected context = true := fun connected => by
      rw [allConnectionsDisconnected, connected] at all
      exact Bool.false_ne_true all
    exact (Bool.eq_false_iff.mpr fun reported => down (up reported)).symm
  · have stays := stopped.trans (deleteDeviceIfNotPaired_stays context _)
    rw [enterDisconnected, if_neg all, if_neg all]
    refine ⟨enableConnectable_connectable (stays.isBredrAclConnected.trans apart), fun _ => ?_⟩
    rw [enableConnectable_sm]
    exact stays.reported

theorem setDisconnected_rescans (done : handling.setDisconnected context = some handling') :
    Rescans context .enable handling handling' := by
  obtain ⟨changed, left, rfl⟩ := map_eq_some_iff.mp done
  obtain ⟨alike, state⟩ := changeState_alike left
  exact (enterDisconnected_rescans state).since alike

/-- The machine has entered a state that counts. -/
structure Counts (context : Context) (handling handling' : Handling) : Prop where
  rescans : Rescans context .disable handling handling'
  counts : handling'.sm.isBredrAclConnected = true

theorem enterConnectedBredr_counts (state : handling.sm.state = .connectedBredr)
    (done : handling.enterConnectedBredr context = some handling') :
    Counts context handling handling' := by
  rw [enterConnectedBredr] at done
  split at done
  · cases done
    have stays : Stays handling.sm (((handling.sm.completeConnectStopRequests
        .connected).completeConnectRequests .success).completeDisconnectRequests .failed) :=
      (completeConnectStopRequests_stays handling.sm .connected).trans ⟨rfl, rfl⟩
    have counts : handling.sm.isBredrAclConnected = true := by
      rw [HandsetSm.isBredrAclConnected, state]
    refine ⟨⟨disableConnectable_connectable (stays.isBredrAclConnected.trans counts),
      fun _ => ?_⟩, ?_⟩
    · rw [disableConnectable_sm]
      exact stays.reported
    · rw [disableConnectable_sm]
      exact stays.isBredrAclConnected.trans counts
  · contradiction

theorem setConnectedBredr_counts (done : handling.setConnectedBredr context = some handling') :
    Counts context handling handling' := by
  obtain ⟨changed, left, entered⟩ := bind_eq_some_iff.mp done
  obtain ⟨alike, state⟩ := changeState_alike left
  obtain ⟨rescans, counts⟩ := enterConnectedBredr_counts state entered
  exact ⟨rescans.since alike, counts⟩

theorem setConnectingBredrAcl_rescans
    (done : handling.setConnectingBredrAcl context = some handling') :
    Rescans context .leave handling handling' := by
  obtain ⟨changed, left, rfl⟩ := map_eq_some_iff.mp done
  obtain ⟨alike, -⟩ := changeState_alike left
  refine Rescans.since ?_ alike
  exact ⟨rfl, fun _ => rfl⟩

theorem connectRequestedProfiles_rescans
    (done : handling.connectRequestedProfiles context = some handling') :
    Rescans context
      (if (handling.sm.deviceIfValid context).isSome then handling.sm.connectedRescan context
      else .leave) handling handling' := by
  refine .ite done (fun _ done => .ite done (fun _ done => ?_) fun _ done => ?_) fun _ => .kept
  · exact (setConnectedBredr_counts done).rescans
  · split at done
    · exact .kept done
    · contradiction

theorem startProfiles_rescans (state : handling.sm.state = .connectingBredrProfiles)
    (done : handling.startProfiles context = some handling') :
    handling'.sm.isBredrAclConnected = true ∧ (Rescans context .leave handling handling' ∨
        Rescans context .disable handling handling') := by
  have counts : handling.sm.isBredrAclConnected = true := by
    rw [HandsetSm.isBredrAclConnected, state]
  rw [startProfiles] at done
  split at done
  · rw [connectRequestedProfiles] at done
    split at done
    · split at done
      · obtain ⟨rescans, counts⟩ := setConnectedBredr_counts done
        exact ⟨counts, .inr (rescans.since ⟨rfl, rfl, rfl⟩)⟩
      · split at done
        · exact some.inj done ▸ ⟨counts, .inl ⟨rfl, fun _ => rfl⟩⟩
        · contradiction
    · exact some.inj done ▸ ⟨counts, .inl ⟨rfl, fun _ => rfl⟩⟩
  · split at done
    · exact some.inj done ▸ ⟨counts, .inl ⟨rfl, fun _ => rfl⟩⟩
    · exact some.inj done ▸ ⟨counts, .inl ⟨rfl, fun _ => rfl⟩⟩

theorem setConnectingBredrProfiles_rescans
    (done : handling.setConnectingBredrProfiles context = some handling') :
    Rescans context .disable handling handling' := by
  obtain ⟨changed, left, entered⟩ := bind_eq_some_iff.mp done
  obtain ⟨alike, state⟩ := changeState_alike left
  obtain ⟨started, starts, rfl⟩ := map_eq_some_iff.mp entered
  obtain ⟨counts, rescans⟩ := startProfiles_rescans state starts
  refine Rescans.since ⟨(disableConnectable_connectable counts).trans ?_, fun up => ?_⟩ alike
  · rcases rescans with rescans | rescans
    · exact congrArg (fun connectable => connectable.rescan context .disable) rescans.connectable
    · rw [rescans.connectable]
      exact rescan_disable_twice changed.connectable context
  · rw [disableConnectable_sm]
    exact rescans.elim (fun rescans => rescans.reported up) fun rescans => rescans.reported up

theorem enterStopConnectingBredrProfiles_rescans
    (done : handling.enterStopConnectingBredrProfiles context = some handling') :
    Rescans context (handling.sm.stoppingRescan context) handling handling' := by
  refine .ite done (fun _ => .kept) fun _ done => .ite done (fun _ done => ?_) fun _ done => ?_
  · exact (setConnectedBredr_counts done).rescans
  · exact setDisconnected_rescans done

theorem setStopConnectingBredrProfiles_rescans
    (done : handling.setStopConnectingBredrProfiles context = some handling') :
    Rescans context (handling.sm.stoppingRescan context) handling handling' := by
  obtain ⟨changed, left, entered⟩ := bind_eq_some_iff.mp done
  obtain ⟨leState, queue, aclAttempts, rfl⟩ := changeState_eq left
  exact (enterStopConnectingBredrProfiles_rescans entered).since (changeState_alike left).1

theorem tryDisconnectingBredr_rescans
    (done : handling.tryDisconnectingBredr context = some handling') :
    Rescans context (handling.sm.disconnectingRescan context) handling handling' := by
  refine .ite done (fun _ done => .ite done (fun _ done => .ite done (fun _ done => ?_) ?_)
    fun _ done => .ite done ?_ ?_) fun _ => setDisconnected_rescans
  · split at done
    · cases done
      exact ⟨rfl, fun _ => rfl⟩
    · contradiction
  · exact fun _ done => (setConnectedBredr_counts done).rescans.since ⟨rfl, rfl, rfl⟩
  · exact fun _ done => some.inj done ▸ ⟨rfl, fun _ => rfl⟩
  · exact fun _ done => (setDisconnected_rescans done).since ⟨rfl, rfl, rfl⟩

theorem setDisconnectingBredr_rescans
    (done : handling.setDisconnectingBredr context = some handling') :
    Rescans context (handling.sm.disconnectingRescan context) handling handling' := by
  obtain ⟨changed, left, entered⟩ := bind_eq_some_iff.mp done
  obtain ⟨leState, queue, aclAttempts, rfl⟩ := changeState_eq left
  exact (tryDisconnectingBredr_rescans entered).since (changeState_alike left).1

theorem leaveIfDisconnected_rescans
    (done : handling.leaveIfDisconnected context = some handling') :
    Rescans context (handling.sm.leavingRescan context) handling handling' := by
  exact .ite done (fun _ => setDisconnected_rescans) fun _ => .kept

theorem settleProfiles_rescans (done : handling.settleProfiles context success = some handling') :
    Rescans context (handling.sm.settlingRescan context success) handling handling' := by
  refine .ite done (fun _ done => ?_) fun _ done => .ite done (fun _ done => ?_) fun _ done => ?_
  · exact (setConnectedBredr_counts done).rescans
  · exact setDisconnected_rescans done
  · exact (setConnectedBredr_counts done).rescans

theorem beginConnecting_rescans {profiles : Profiles}
    (done : handling.beginConnecting context profiles = some handling') :
    Rescans context (if context.world.isConnected then .disable else .leave) handling
      handling' := by
  refine .ite done (fun _ done => ?_) fun _ done => ?_
  · split at done
    · exact (setConnectingBredrProfiles_rescans done).since ⟨rfl, rfl, rfl⟩
    · exact (setConnectedBredr_counts done).rescans.since ⟨rfl, rfl, rfl⟩
  · exact (setConnectingBredrAcl_rescans done).since ⟨rfl, rfl, rfl⟩

theorem disconnectBredr_rescans (done : handling.disconnectBredr context exclude = some handling') :
    Rescans context (handling.sm.internalRescan context (.disconnectReq exclude)) handling
      handling' := by
  rw [internalRescan.eq_def]
  rw [disconnectBredr.eq_def] at done
  dsimp only at done ⊢
  cases state : handling.sm.state
  all_goals rw [state] at done
  case disconnected =>
    dsimp only at done ⊢
    split at done
    · exact .kept done
    · cases done
      exact ⟨rfl, fun _ => rfl⟩
  case connectingBredrAcl => exact setDisconnected_rescans done
  case stopConnectingBredrProfiles =>
    exact (setDisconnectingBredr_rescans done).since ⟨rfl, rfl, rfl⟩
  case connectingBredrProfiles =>
    exact (setDisconnectingBredr_rescans done).since ⟨rfl, rfl, rfl⟩
  case connectedBredr =>
    refine .ite done (fun _ => setDisconnected_rescans) fun _ done => ?_
    exact (setDisconnectingBredr_rescans done).since ⟨rfl, rfl, rfl⟩
  all_goals exact .kept done

theorem handleInternalConnectReq_rescans {device : Option Bdaddr}
    (done : handling.handleInternalConnectReq context device profiles = some handling') :
    Rescans context (handling.sm.internalRescan context (.connectReq device profiles)) handling
      handling' := by
  rw [internalRescan.eq_def]
  rw [handleInternalConnectReq.eq_def] at done
  split at done
  · contradiction
  · cases state : handling.sm.state
    all_goals rw [state] at done
    case disconnected => exact beginConnecting_rescans done
    case disconnectingBredr => exact beginConnecting_rescans done
    case connectedBredr =>
      refine .ite done (fun _ done => ?_) fun _ done => some.inj done ▸ ⟨rfl, fun _ => rfl⟩
      exact (setConnectingBredrProfiles_rescans done).since ⟨rfl, rfl, rfl⟩
    all_goals exact .kept done

theorem handleInternalDisconnectReq_rescans
    (done : handling.handleInternalDisconnectReq context exclude = some handling') :
    Rescans context (handling.sm.internalRescan context (.disconnectReq exclude)) handling
      handling' := by
  obtain ⟨bredr, disconnecting, rfl⟩ := map_eq_some_iff.mp done
  obtain ⟨connectable, reported⟩ := disconnectBredr_rescans disconnecting
  refine ⟨connectable, fun up => ?_⟩
  rw [bleDisconnectIfConnected_eq]
  split
  · exact reported up
  · exact reported up

theorem handleInternalConnectAclComplete_rescans
    (done : handling.handleInternalConnectAclComplete context = some handling') :
    Rescans context (handling.sm.aclCompleteRescan context) handling handling' := by
  refine .ite done (fun _ done => ?_) fun _ => .kept
  split at done
  · next valid =>
    split at done
    · next can =>
      rw [if_pos ⟨valid, can⟩]
      refine .ite done (fun _ done => ?_) fun _ done => .ite done (fun _ done => ?_) fun _ => ?_
      · split at done
        · have rescans := setConnectingBredrProfiles_rescans done
          exact ⟨rescans.connectable, rescans.reported⟩
        · exact (setConnectedBredr_counts done).rescans
      · cases done
        exact ⟨rfl, fun _ => rfl⟩
      · exact setDisconnected_rescans
    · next cannot =>
      rw [if_neg fun both => cannot both.2]
      exact setDisconnected_rescans done
  · next invalid =>
    rw [if_neg fun both => invalid both.1]
    exact setDisconnected_rescans done

theorem handleInternalConnectStop_rescans {device : Option Bdaddr}
    (done : handling.handleInternalConnectStop context device = some handling') :
    Rescans context (handling.sm.internalRescan context (.connectStopReq device)) handling
      handling' := by
  rw [internalRescan.eq_def]
  rw [handleInternalConnectStop.eq_def] at done
  split at done
  · contradiction
  · have answered : Rescans context .leave handling { handling with
        sm := handling.sm.completeConnectStopRequests .connected } :=
      ⟨rfl, fun _ => (completeConnectStopRequests_stays handling.sm .connected).reported⟩
    cases state : handling.sm.state
    all_goals rw [state] at done
    case connectingBredrAcl => exact setDisconnected_rescans done
    case connectingBredrProfiles => exact setStopConnectingBredrProfiles_rescans done
    case disconnected => exact some.inj done ▸ answered
    case connectedBredr => exact some.inj done ▸ answered
    all_goals exact .kept done

theorem handleInternalConnectProfilesReq_rescans
    (done : handling.handleInternalConnectProfilesReq context = some handling') :
    Rescans context (handling.sm.internalRescan context .connectProfilesReq) handling
      handling' := by
  rw [internalRescan.eq_def]
  rw [handleInternalConnectProfilesReq] at done
  dsimp only
  split at done
  · next connecting =>
    split at done
    · next paired =>
      have rescans := connectRequestedProfiles_rescans done
      by_cases valid : (handling.sm.deviceIfValid context).isSome = true
      · rw [if_pos valid] at rescans
        rw [if_pos ⟨connecting, paired, valid⟩]
        exact rescans
      · rw [if_neg valid] at rescans
        rw [if_neg fun all => valid all.2.2]
        exact rescans
    · next unpaired =>
      rw [if_neg fun all => unpaired all.2.1]
      cases done
      exact ⟨rfl, fun _ => rfl⟩
  · next other =>
    rw [if_neg fun all => other all.1]
    exact .kept done

theorem handleInternal_rescans {message : Internal}
    (done : handling.handleInternal context message = some handling') :
    Rescans context (handling.sm.internalRescan context message) handling handling' := by
  rw [handleInternal.eq_def] at done
  split at done
  · have alike : Alike handling (handling.taken message) := ⟨rfl, rfl, rfl⟩
    refine Rescans.since ?_ alike
    cases message with
    | connectReq device profiles => exact handleInternalConnectReq_rescans done
    | disconnectReq exclude => exact handleInternalDisconnectReq_rescans done
    | connectAclComplete => exact handleInternalConnectAclComplete_rescans done
    | connectStopReq device => exact handleInternalConnectStop_rescans done
    | connectAclRetryReq =>
      cases done
      rw [handleInternalConnectAclRetryReq]
      split
      · exact ⟨rfl, fun _ => rfl⟩
      · exact .kept rfl
    | connectProfilesReq => exact handleInternalConnectProfilesReq_rescans done
  · contradiction

theorem handleProfileManagerConnectCfm_rescans
    (done : handling.handleProfileManagerConnectCfm context success = some handling') :
    Rescans context (handling.sm.rescan context (.connectProfilesCfm success)) handling
      handling' := by
  obtain ⟨ended, ends, rfl⟩ := map_eq_some_iff.mp done
  suffices rescans : Rescans context (handling.sm.rescan context (.connectProfilesCfm success))
      handling ended from ⟨rescans.connectable, rescans.reported⟩
  rw [HandsetSm.rescan.eq_def]
  rw [endConnect.eq_def] at ends
  dsimp only
  cases state : handling.sm.state
  all_goals rw [state] at ends
  case stopConnectingBredrProfiles => exact settleProfiles_rescans ends
  case connectingBredrProfiles => exact settleProfiles_rescans ends
  case disconnectingBredr => exact leaveIfDisconnected_rescans ends
  all_goals exact .kept ends

theorem profileConnected_rescans {profile : Profiles}
    (done : handling.profileConnected context profile = some handling') :
    Rescans context (handling.sm.connectedRescan context) handling handling' := by
  obtain ⟨connected, connects, rfl⟩ := map_eq_some_iff.mp done
  suffices rescans : Rescans context (handling.sm.connectedRescan context) handling connected
    from ⟨rescans.connectable, rescans.reported⟩
  refine .ite connects (fun _ connects => ?_) fun _ connects => ?_
  · exact (setConnectedBredr_counts connects).rescans
  · cases connects
    refine ⟨rfl, fun _ => ?_⟩
    dsimp only
    rw [restartProfileConnectionTimeout]
    split
    · rfl
    · rfl

theorem setDeviceIfNone_stays (sm : HandsetSm) (device : Option Bdaddr) :
    Stays sm (sm.setDeviceIfNone device) := by
  rw [setDeviceIfNone]
  split
  · exact ⟨rfl, rfl⟩
  · exact ⟨rfl, rfl⟩

theorem handleProfileManagerConnectedInd_rescans (done : handleProfileManagerConnectedInd context
      { handling with sm := handling.sm.setDeviceIfNone (some device) } device profile =
        some handling') :
    Rescans context (handling.sm.rescan context (.connectedProfileInd device profile))
      { handling with sm := handling.sm.setDeviceIfNone (some device) } handling' := by
  have stays := setDeviceIfNone_stays handling.sm (some device)
  rw [HandsetSm.rescan.eq_def]
  rw [handleProfileManagerConnectedInd.eq_def] at done
  dsimp only at done ⊢
  rw [← stays.state]
  split at done
  · contradiction
  · cases state : (handling.sm.setDeviceIfNone (some device)).state
    all_goals rw [state] at done
    case disconnected =>
      refine .ite done (fun _ done => ?_) fun _ => .kept
      exact (setConnectedBredr_counts done).rescans
    case connectingBredrProfiles => exact profileConnected_rescans done
    case stopConnectingBredrProfiles => exact profileConnected_rescans done
    all_goals exact .kept done

theorem handleProfileManagerDisconnectedInd_rescans
    (done : handling.handleProfileManagerDisconnectedInd context device = some handling') :
    Rescans context (handling.sm.rescan context (.disconnectedProfileInd device)) handling
      handling' := by
  rw [HandsetSm.rescan.eq_def]
  rw [handleProfileManagerDisconnectedInd.eq_def] at done
  dsimp only
  split at done
  · contradiction
  · cases state : handling.sm.state
    all_goals rw [state] at done
    case connectingBredrAcl => exact leaveIfDisconnected_rescans done
    case connectingBredrProfiles => exact leaveIfDisconnected_rescans done
    case stopConnectingBredrProfiles => exact leaveIfDisconnected_rescans done
    case connectedBredr => exact leaveIfDisconnected_rescans done
    all_goals exact .kept done

theorem handleConManagerBredrTpConnectInd_rescans
    (done : handling.handleConManagerBredrTpConnectInd context device = some handling') :
    Rescans context (handling.sm.rescan context (.tpConnectInd device)) handling handling' := by
  rw [HandsetSm.rescan.eq_def]
  rw [handleConManagerBredrTpConnectInd.eq_def] at done
  dsimp only
  split at done
  · contradiction
  · cases state : handling.sm.state
    all_goals rw [state] at done
    case disconnected => exact setConnectingBredrProfiles_rescans done
    case connectingBredrAcl =>
      dsimp only at done
      split at done
      · cases done
        exact ⟨rfl, fun _ => rfl⟩
      · exact .kept done
    all_goals exact .kept done

theorem handleConManagerBredrTpDisconnectInd_rescans {reason : HciStatus}
    (done : handling.handleConManagerBredrTpDisconnectInd context device reason = some handling') :
    Rescans context (handling.sm.rescan context (.tpDisconnectInd device reason)) handling
      handling' := by
  rw [HandsetSm.rescan.eq_def]
  rw [handleConManagerBredrTpDisconnectInd.eq_def] at done
  dsimp only
  split at done
  · next invalid =>
    rw [if_neg fun both => Bool.false_ne_true
      ((Option.isSome_eq_false_iff.mpr invalid).symm.trans both.1)]
    exact .kept done
  · next valid =>
    split at done
    · contradiction
    · split at done
      · next gone =>
        rw [Bool.or_eq_true, decide_eq_true_eq] at gone
        rw [if_pos ⟨Option.isSome_iff_ne_none.mpr fun same => valid (same ▸ rfl), gone⟩]
        cases state : handling.sm.state
        all_goals rw [state] at done
        case connectingBredrProfiles => exact setStopConnectingBredrProfiles_rescans done
        case connectingBredrAcl => exact setDisconnected_rescans done
        case connectedBredr => exact setDisconnected_rescans done
        case disconnectingBredr =>
          have rescans := setDisconnected_rescans done
          exact ⟨rescans.connectable, rescans.reported⟩
        all_goals exact .kept done
      · next stays =>
        rw [Bool.or_eq_true, decide_eq_true_eq] at stays
        rw [if_neg fun both => stays both.2]
        exact .kept done

/-- What a machine with an ACL that is up does about page scanning. -/
theorem handle_rescan {input : Input}
    (up : handling.sm.aclReported = true → context.world.isConnected = true ∧
      (input.bringsAcl = true ∨ handling.sm.handsetDevice.isSome = true))
    (done : handling.handle context input = some handling') :
    handling'.connectable = handling.connectable.rescan context (handling.sm.rescan context input) ∧
      handling'.sm.aclReported = handling.sm.aclReported := by
  have connected (quiet : input.bringsAcl = false) (reported : handling.sm.aclReported = true) :
      handling.sm.aclConnected context = true := by
    obtain ⟨isConnected, brings | hasDevice⟩ := up reported
    · exact absurd (quiet.symm.trans brings) Bool.false_ne_true
    · exact Bool.and_eq_true_iff.mpr ⟨hasDevice, isConnected⟩
  have read {rescan : Rescan} (quiet : input.bringsAcl = false)
      (rescans : Rescans context rescan handling handling') :
      handling'.connectable = handling.connectable.rescan context rescan ∧
        handling'.sm.aclReported = handling.sm.aclReported :=
    ⟨rescans.connectable, rescans.reported (connected quiet)⟩
  cases input with
  | connectReq task device profiles =>
    obtain ⟨sm, asked, rfl⟩ := map_eq_some_iff.mp done
    obtain ⟨tasks, -, rfl⟩ := map_eq_some_iff.mp asked
    refine ⟨rfl, ?_⟩
    exact (setDeviceIfNone_stays { handling.sm with
      log := .connectRequest task :: handling.sm.log } device).reported
  | disconnectReq task exclude =>
    obtain ⟨sm, asked, rfl⟩ := map_eq_some_iff.mp done
    obtain ⟨tasks, -, rfl⟩ := map_eq_some_iff.mp asked
    exact ⟨rfl, rfl⟩
  | stopConnect task =>
    obtain ⟨sm, asked, rfl⟩ := map_eq_some_iff.mp done
    rw [HandsetSm.stopConnect] at asked
    dsimp only at asked
    split at asked
    · contradiction
    · cases asked
      exact ⟨rfl, rfl⟩
  | internal message => exact read rfl (handleInternal_rescans done)
  | connectProfilesCfm success => exact read rfl (handleProfileManagerConnectCfm_rescans done)
  | disconnectProfilesCfm success =>
    refine read rfl ?_
    rw [HandsetSm.rescan.eq_def]
    replace done : handling.handleProfileManagerDisconnectCfm context success = some handling' :=
      done
    exact .ite done (fun _ => tryDisconnectingBredr_rescans) fun _ => .kept
  | connectedProfileInd device profile =>
    have rescans := handleProfileManagerConnectedInd_rescans done
    have stays := setDeviceIfNone_stays handling.sm (some device)
    refine ⟨rescans.connectable, (rescans.reported fun reported => ?_).trans stays.reported⟩
    refine Bool.and_eq_true_iff.mpr ⟨?_, (up (stays.reported.symm.trans reported)).1⟩
    rw [setDeviceIfNone]
    split
    · assumption
    · rfl
  | disconnectedProfileInd device =>
    exact read rfl (handleProfileManagerDisconnectedInd_rescans done)
  | tpConnectInd device =>
    replace done : handling.tpConnectInd context device = some handling' := done
    have rescans := handleConManagerBredrTpConnectInd_rescans done
    by_cases valid : (handling.sm.deviceIfValid context).isSome = true
    · rw [if_pos valid] at rescans
      refine ⟨rescans.connectable, rescans.reported fun reported => ?_⟩
      refine Bool.and_eq_true_iff.mpr ⟨?_, (up reported).1⟩
      rw [deviceIfValid] at valid
      split at valid
      · exact valid
      · exact absurd valid Bool.false_ne_true
    · rw [if_neg valid] at rescans
      refine ⟨rescans.connectable, rescans.reported fun reported => ?_⟩
      exact Bool.and_eq_true_iff.mpr ⟨rfl, (up reported).1⟩
  | tpDisconnectInd device reason =>
    exact read rfl (handleConManagerBredrTpDisconnectInd_rescans done)
  | bleTpConnectInd device addr =>
    cases done
    exact ⟨rfl, (setDeviceIfNone_stays handling.sm device).reported⟩
  | bleTpDisconnectInd =>
    cases done
    refine ⟨rfl, ?_⟩
    dsimp only
    rw [bleSetDisconnected]
    split
    · rfl
    · dsimp only
      split
      · next all =>
        -- nothing of the handset is connected, so that its ACL was not reported
        have down : ¬ handling.sm.aclConnected context = true := fun connected => by
          rw [allConnectionsDisconnected, Bool.and_eq_true, Bool.and_eq_true] at all
          have apart : (!handling.sm.aclConnected context) = true := all.1.1
          rw [connected] at apart
          exact Bool.false_ne_true apart
        exact (Bool.eq_false_iff.mpr fun reported => down (connected rfl reported)).symm
      · rfl
  | pairingSuccess device =>
    cases done
    exact ⟨rfl, (setDeviceIfNone_stays handling.sm (some device)).reported⟩

end Handling

end HeadsetAdk.Handset
