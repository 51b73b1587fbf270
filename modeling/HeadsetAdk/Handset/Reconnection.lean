import HeadsetAdk.Handset.MultipointSm
import HeadsetAdk.Lib.EventLog

/-! # Confirmations of reconnecting -/

namespace HeadsetAdk.Handset

open TaskLists Requests

def asksConnect (task : Task) : MpEntry → Bool
  | .reconnectRequest client => decide (client = task)
  | _ => false

/-- `HANDSET_SERVICE_MP_CONNECT_CFM`, if it is not for a request that was just made. -/
def confirmsConnect (task : Task) : MpEntry → Bool
  | .mpConnectCfm client _ => decide (client = task)
  | _ => false

def asksStop (task : Task) : MpEntry → Bool
  | .stopReconnect client => decide (client = task)
  | _ => false

/-- `HANDSET_SERVICE_MP_CONNECT_STOP_CFM` -/
def confirmsStop (task : Task) : MpEntry → Bool
  | .mpConnectStopCfm client _ => decide (client = task)
  | _ => false

def stopsHandset : MpEntry → Bool
  | .stopConnect _ => true
  | _ => false

/-- `HANDSET_SERVICE_CONNECT_STOP_CFM` -/
def handsetStopped : MpEntry → Bool
  | .connectStopCfm => true
  | _ => false

namespace MultipointSm

variable (sm : MultipointSm)

/-- How often the client asked to reconnect since it was sent a confirmation. -/
def waits (task : Task) : Nat := unanswered (asksConnect task) (confirmsConnect task) sm.log

def stopWaits (task : Task) : Nat := unanswered (asksStop task) (confirmsStop task) sm.log

/-- The tasks of `stop_reconnect_tasklist`. -/
def stopTasks : List Task := sm.stopReconnectTasklist.getD []

/-- No request has two confirmations.  A client that was not sent its confirmation is on
the task list, the reconnection is in progress and a handset is waited for, or is asked to
stop. -/
structure Answered : Prop where
  connectOnce : ∀ task, Solicited (asksConnect task) (confirmsConnect task) sm.log
  stopOnce : ∀ task, Solicited (asksStop task) (confirmsStop task) sm.log
  outstanding : sm.reconnectionInProgress = true → 0 < sm.connectCfmWaitCount
  kept : ∀ task, 0 < sm.waits task →
    task ∈ sm.reconnectTaskList ∧ sm.reconnectionInProgress = true
  stopOutstanding : sm.stopReconnectInProgress = true →
    0 < unanswered stopsHandset handsetStopped sm.log
  stopKept : ∀ task, 0 < sm.stopWaits task →
    task ∈ sm.stopTasks ∧ sm.stopReconnectInProgress = true

/-- The device that a reconnection starts with can connect, if there is one; and a handset
connects when a reconnection is stopped. -/
def Orderly : MpEvent → Prop
  | .reconnectRequest _ linkLoss surroundings =>
      surroundings.maxFullyConnected = false → sm.reconnectionInProgress = false →
        ∀ device ∈ surroundings.focusDevice
            (if linkLoss then .connectHandsetLinkLoss else .connectHandset),
          isHandsetConnectInProgress surroundings device.bdAddr = false ∧
            surroundings.canConnect device.bdAddr = true
  | .stopReconnect _ surroundings =>
      sm.stopReconnectInProgress = false → sm.reconnectionInProgress = true →
        (addrOfHandsetConnectInProgress surroundings).isSome = true
  | .connectCfm _ => True
  | .connectStopCfm _ _ => True
  | .getNextDevice _ => True

instance (event : MpEvent) : Decidable (sm.Orderly event) :=
  match event with
  | .reconnectRequest _ linkLoss surroundings =>
      inferInstanceAs (Decidable (surroundings.maxFullyConnected = false →
        sm.reconnectionInProgress = false → ∀ device ∈ surroundings.focusDevice
            (if linkLoss then .connectHandsetLinkLoss else .connectHandset), _ ∧ _))
  | .stopReconnect _ surroundings =>
      inferInstanceAs (Decidable (sm.stopReconnectInProgress = false →
        sm.reconnectionInProgress = true →
          (addrOfHandsetConnectInProgress surroundings).isSome = true))
  | .connectCfm _ => isTrue trivial
  | .connectStopCfm _ _ => isTrue trivial
  | .getNextDevice _ => isTrue trivial

end MultipointSm

section Adding

variable {old tasks : List Task} {task : Task}

theorem unanswered_add {asks answers : Task → MpEntry → Bool} {entry : MpEntry}
    {log : List MpEntry} (own : ∀ other, asks other entry = decide (task = other))
    (silent : ∀ other, answers other entry = false) (other : Task) :
    unanswered (asks other) (answers other) (entry :: log) =
      unanswered (asks other) (answers other) log + if task = other then 1 else 0 := by
  by_cases same : task = other
  · rw [unanswered_ask ((own other).trans (decide_eq_true same)), if_pos same]
  · rw [unanswered_other ((own other).trans (decide_eq_false same)) (silent other),
      if_neg same, Nat.add_zero]

section

variable {waits after : Task → Nat} (added : addTask old task = some tasks)
  (counts : ∀ other, after other = waits other + if task = other then 1 else 0)

include added counts

theorem kept_add (kept : ∀ other, 0 < waits other → other ∈ old) (other : Task)
    (waiting : 0 < after other) : other ∈ tasks := by
  rw [addTask_mem added]
  by_cases same : task = other
  · exact .inr same.symm
  · rw [counts, if_neg same] at waiting
    exact .inl (kept other waiting)

theorem listed_add (listed : ∀ other ∈ old, 0 < waits other) (other : Task)
    (member : other ∈ tasks) : 0 < after other := by
  rw [counts]
  rcases (addTask_mem added other).mp member with before | same
  · exact Nat.lt_of_lt_of_le (listed other before) (Nat.le_add_right _ _)
  · rw [if_pos same.symm]
    exact Nat.succ_pos _

end

end Adding

namespace MultipointSm

variable {sm next : MultipointSm}

structure Listing (sm : MultipointSm) : Prop where
  solicited : ∀ task, Solicited (asksConnect task) (confirmsConnect task) sm.log
  kept : ∀ task, 0 < sm.waits task → task ∈ sm.reconnectTaskList
  distinct : sm.reconnectTaskList.Nodup
  listed : ∀ task ∈ sm.reconnectTaskList, 0 < sm.waits task
  resting : sm.reconnectionInProgress = false →
    sm.connectCfmWaitCount = 0 ∧ sm.reconnectTaskList = []
  asked : sm.reconnectionInProgress = true → sm.reconnectTaskList ≠ []

structure Reconnecting (sm : MultipointSm) : Prop where
  listing : sm.Listing
  outstanding : sm.reconnectionInProgress = true → 0 < sm.connectCfmWaitCount

/-- What the events keep of the connect requests. -/
structure ConnectSound (sm : MultipointSm) : Prop where
  reconnecting : sm.Reconnecting
  idle : sm.reconnectionInProgress = false → sm.state = .idle

theorem Listing.same (listing : sm.Listing)
    (tasks : next.reconnectTaskList = sm.reconnectTaskList)
    (inProgress : next.reconnectionInProgress = sm.reconnectionInProgress)
    (count : next.reconnectionInProgress = false →
      sm.connectCfmWaitCount = 0 → next.connectCfmWaitCount = 0)
    (solicited : ∀ task, Solicited (asksConnect task) (confirmsConnect task) next.log)
    (waits : ∀ task, next.waits task = sm.waits task) : next.Listing where
  solicited := solicited
  kept := fun task waiting => tasks ▸ listing.kept task (waits task ▸ waiting)
  distinct := tasks ▸ listing.distinct
  listed := fun task member => waits task ▸ listing.listed task (tasks ▸ member)
  resting := fun stopped =>
    ⟨count stopped (listing.resting (inProgress ▸ stopped)).1,
      tasks.trans (listing.resting (inProgress ▸ stopped)).2⟩
  asked := fun inProgress' => tasks ▸ listing.asked (inProgress ▸ inProgress')

theorem ConnectSound.same (sound : sm.ConnectSound)
    (tasks : next.reconnectTaskList = sm.reconnectTaskList)
    (inProgress : next.reconnectionInProgress = sm.reconnectionInProgress)
    (count : next.connectCfmWaitCount = sm.connectCfmWaitCount)
    (state : next.state = sm.state)
    (solicited : ∀ task, Solicited (asksConnect task) (confirmsConnect task) next.log)
    (waits : ∀ task, next.waits task = sm.waits task) : next.ConnectSound where
  reconnecting :=
    { listing := sound.reconnecting.listing.same tasks inProgress
        (fun _ none => count.trans none) solicited waits
      outstanding := fun inProgress' =>
        count ▸ sound.reconnecting.outstanding (inProgress ▸ inProgress') }
  idle := fun stopped => state.trans (sound.idle (inProgress ▸ stopped))

theorem Reconnecting.reset (reconnecting : sm.Reconnecting) : sm.resetMpState.ConnectSound where
  reconnecting :=
    { listing := reconnecting.listing.same rfl rfl (fun _ none => none)
        reconnecting.listing.solicited fun _ => rfl
      outstanding := reconnecting.outstanding }
  idle := fun _ => rfl

theorem sendMpConnectCfm_waits (status : Status) (task : Task) :
    (sm.sendMpConnectCfm status).waits task =
      if task ∈ sm.reconnectTaskList then 0 else sm.waits task :=
  unanswered_sendAll (fun _ => rfl) (fun _ => rfl) sm.log

theorem Listing.complete (listing : sm.Listing) (status : Status) :
    ((sm.sendMpConnectCfm status).tidyUp).Reconnecting := by
  have nobody : ∀ task, (sm.sendMpConnectCfm status).waits task = 0 := by
    intro task
    rw [sendMpConnectCfm_waits]
    split
    · rfl
    · next absent =>
        by_contra waiting
        exact absent (listing.kept task (Nat.pos_of_ne_zero waiting))
  exact
    { listing :=
        { solicited := fun task => (listing.solicited task).sendAll (fun _ => rfl)
            (fun _ => rfl) listing.distinct (listing.listed task)
          kept := fun task waiting => absurd (nobody task) (Nat.ne_of_gt waiting)
          distinct := List.nodup_nil
          listed := fun task member => absurd member List.not_mem_nil
          resting := fun _ => ⟨rfl, rfl⟩
          asked := nofun }
      outstanding := nofun }

theorem Listing.sendMpConnectCfmAndTidyUp (listing : sm.Listing) (status : Status) :
    (sm.sendMpConnectCfmAndTidyUp status).Reconnecting := by
  rw [MultipointSm.sendMpConnectCfmAndTidyUp]
  split
  · exact listing.complete status
  · next waiting =>
      exact ⟨listing, fun inProgress => Nat.pos_of_ne_zero fun none =>
        waiting ⟨inProgress, none⟩⟩

theorem Listing.enterGetDeviceToConnect (listing : sm.Listing)
    (inProgress : sm.reconnectionInProgress = true) (surroundings : Surroundings)
    (starts : 0 < sm.connectCfmWaitCount ∨ ∀ device ∈ surroundings.focusDevice sm.reconnectUiInput,
        isHandsetConnectInProgress surroundings device.bdAddr = false ∧
          surroundings.canConnect device.bdAddr = true) :
    (sm.enterGetDeviceToConnect surroundings).ConnectSound := by
  rw [MultipointSm.enterGetDeviceToConnect]
  split
  · next device found =>
      split
      · exact
          { reconnecting :=
              { listing := listing.same rfl rfl
                  (fun stopped _ => absurd (inProgress.symm.trans stopped) nofun)
                  (fun task => (listing.solicited task).other rfl)
                  fun _ => unanswered_other rfl rfl
                outstanding := fun _ => Nat.succ_pos _ }
            idle := fun stopped => absurd (inProgress.symm.trans stopped) nofun }
      · next refused =>
          refine ⟨⟨listing, fun _ => ?_⟩, fun stopped =>
            absurd (inProgress.symm.trans stopped) nofun⟩
          rcases starts with waits | connects
          · exact waits
          · exact absurd (connects device found) refused
  · exact (listing.sendMpConnectCfmAndTidyUp .success).reset

theorem ConnectSound.setStateToGetNextDevice (sound : sm.ConnectSound)
    (surroundings : Surroundings) :
    (sm.setStateToGetNextDevice surroundings).ConnectSound := by
  rw [MultipointSm.setStateToGetNextDevice]
  split
  · exact sound
  · have listing : ({ sm with state := .getNextDevice } : MultipointSm).Listing :=
      sound.reconnecting.listing.same rfl rfl (fun _ none => none)
        sound.reconnecting.listing.solicited fun _ => rfl
    rw [MultipointSm.enterGetNextDeviceToConnect]
    split
    · next goesOn =>
        rw [MultipointSm.setStateToGetDevice, if_neg nofun]
        have listing : ({ sm with state := .getDevice } : MultipointSm).Listing :=
          sound.reconnecting.listing.same rfl rfl (fun _ none => none)
            sound.reconnecting.listing.solicited fun _ => rfl
        exact listing.enterGetDeviceToConnect goesOn.1 surroundings
          (.inl (sound.reconnecting.outstanding goesOn.1))
    · exact (listing.sendMpConnectCfmAndTidyUp .success).reset

theorem ConnectSound.handleConnectCfm (sound : sm.ConnectSound) (status : Status) :
    (sm.handleConnectCfm status).ConnectSound := by
  have listing : ({ sm with
      connectCfmWaitCount := sm.connectCfmWaitCount - 1 } : MultipointSm).Listing :=
    sound.reconnecting.listing.same rfl rfl
      (fun _ none => by rw [none])
      sound.reconnecting.listing.solicited fun _ => rfl
  rw [MultipointSm.handleConnectCfm]
  have reconnecting := listing.sendMpConnectCfmAndTidyUp status
  split
  · exact reconnecting.reset
  · next waiting =>
      exact ⟨reconnecting, fun stopped => absurd (reconnecting.listing.resting stopped).1 waiting⟩

theorem Listing.add (listing : sm.Listing) {tasks : List Task} {task : Task}
    (added : addTask sm.reconnectTaskList task = some tasks) (linkLoss : Bool) :
    ({ sm with
      reconnectTaskList := tasks
      log := .reconnectRequest task :: sm.log
      reconnectionInProgress := true
      linkLoss := linkLoss } : MultipointSm).Listing where
  solicited := fun other => (listing.solicited other).other rfl
  kept := kept_add added (unanswered_add (fun _ => rfl) fun _ => rfl) listing.kept
  distinct := addTask_nodup added listing.distinct
  listed := listed_add added (unanswered_add (fun _ => rfl) fun _ => rfl) listing.listed
  resting := nofun
  asked := fun _ => List.ne_nil_of_mem ((addTask_mem added task).mpr (.inr rfl))

def started (sm : MultipointSm) (tasks : List Task) (task : Task) (linkLoss : Bool) :
    MultipointSm :=
  { sm with
    reconnectTaskList := tasks
    log := .reconnectRequest task :: sm.log
    reconnectionInProgress := true
    linkLoss := linkLoss
    state := .getDevice }

section

variable (sound : sm.ConnectSound) {surroundings : Surroundings} {task : Task} {linkLoss : Bool}

include sound

theorem ConnectSound.reconnectRequest_eq (few : surroundings.maxFullyConnected = false)
    (stopped : sm.reconnectionInProgress = false)
    (requests : sm.reconnectRequest surroundings task linkLoss = some next) :
    ∃ tasks, addTask sm.reconnectTaskList task = some tasks ∧
      next = (sm.started tasks task linkLoss).enterGetDeviceToConnect surroundings := by
  rw [reconnectRequest, if_pos few] at requests
  obtain ⟨tasks, added, same⟩ := Option.map_eq_some_iff.mp requests
  refine ⟨tasks, added, ?_⟩
  have idle : sm.state ≠ .getDevice := by
    rw [sound.idle stopped]
    exact nofun
  dsimp only at same
  rw [stopped, if_neg Bool.false_ne_true, setStateToGetDevice, if_neg idle] at same
  exact same.symm

theorem ConnectSound.reconnectRequest
    (orderly : sm.Orderly (.reconnectRequest task linkLoss surroundings))
    (requests : sm.reconnectRequest surroundings task linkLoss = some next) :
    next.ConnectSound := by
  by_cases few : surroundings.maxFullyConnected = false
  · cases inProgress : sm.reconnectionInProgress with
    | false =>
      obtain ⟨tasks, added, rfl⟩ := sound.reconnectRequest_eq few inProgress requests
      have listing : (sm.started tasks task linkLoss).Listing :=
        (sound.reconnecting.listing.add added linkLoss).same rfl rfl (fun _ none => none)
          (sound.reconnecting.listing.add added linkLoss).solicited fun _ => rfl
      exact listing.enterGetDeviceToConnect rfl surroundings (.inr (orderly few inProgress))
    | true =>
      rw [MultipointSm.reconnectRequest, if_pos few] at requests
      obtain ⟨tasks, added, same⟩ := Option.map_eq_some_iff.mp requests
      dsimp only at same
      rw [inProgress, if_pos rfl] at same
      have listing := sound.reconnecting.listing.add added sm.linkLoss
      subst same
      exact
        { reconnecting :=
            { listing := listing.same rfl rfl nofun listing.solicited fun _ => rfl
              outstanding := fun _ => sound.reconnecting.outstanding inProgress }
          idle := nofun }
  · rw [MultipointSm.reconnectRequest, if_neg few, Option.some.injEq] at requests
    subst requests
    exact sound.same rfl rfl rfl rfl
      (fun other => (sound.reconnecting.listing.solicited other).other rfl)
      fun _ => unanswered_other rfl rfl

theorem ConnectSound.not_answered
    (disorderly : ¬ sm.Orderly (.reconnectRequest task linkLoss surroundings))
    (requests : sm.reconnectRequest surroundings task linkLoss = some next) :
    ¬ next.Answered := by
  rw [Orderly] at disorderly
  push Not at disorderly
  obtain ⟨few, stopped, device, found, refused⟩ := disorderly
  obtain ⟨tasks, added, rfl⟩ := sound.reconnectRequest_eq few stopped requests
  intro answered
  have focus : surroundings.focusDevice
      (sm.started tasks task linkLoss).reconnectUiInput = some device := found
  have same : (sm.started tasks task linkLoss).enterGetDeviceToConnect surroundings =
      sm.started tasks task linkLoss := by
    rw [enterGetDeviceToConnect, focus]
    exact if_neg fun connects => refused connects.1 connects.2
  rw [same] at answered
  have waits : 0 < sm.connectCfmWaitCount := answered.outstanding rfl
  rw [(sound.reconnecting.listing.resting stopped).1] at waits
  exact absurd waits (Nat.lt_irrefl 0)

end

end MultipointSm

namespace MultipointSm

variable {sm next : MultipointSm}

structure StopListing (sm : MultipointSm) : Prop where
  solicited : ∀ task, Solicited (asksStop task) (confirmsStop task) sm.log
  kept : ∀ task, 0 < sm.stopWaits task → task ∈ sm.stopTasks
  distinct : sm.stopTasks.Nodup
  listed : ∀ task ∈ sm.stopTasks, 0 < sm.stopWaits task

/-- What the events keep of the stop requests. -/
structure StopSound (sm : MultipointSm) : Prop where
  listing : sm.StopListing
  resting : sm.stopReconnectInProgress = false → sm.stopTasks = []
  outstanding : sm.stopReconnectInProgress = true →
    0 < unanswered stopsHandset handsetStopped sm.log

theorem StopListing.same (listing : sm.StopListing) (tasks : next.stopTasks = sm.stopTasks)
    (solicited : ∀ task, Solicited (asksStop task) (confirmsStop task) next.log)
    (waits : ∀ task, next.stopWaits task = sm.stopWaits task) : next.StopListing where
  solicited := solicited
  kept := fun task waiting => tasks ▸ listing.kept task (waits task ▸ waiting)
  distinct := tasks ▸ listing.distinct
  listed := fun task member => waits task ▸ listing.listed task (tasks ▸ member)

/-- Nothing changes for the stop requests. -/
structure StopQuiet (sm next : MultipointSm) : Prop where
  tasks : next.stopReconnectTasklist = sm.stopReconnectTasklist
  inProgress : next.stopReconnectInProgress = sm.stopReconnectInProgress
  waits : ∀ task, next.stopWaits task = sm.stopWaits task
  solicited : ∀ task, Solicited (asksStop task) (confirmsStop task) sm.log →
    Solicited (asksStop task) (confirmsStop task) next.log
  stops : unanswered stopsHandset handsetStopped next.log =
    unanswered stopsHandset handsetStopped sm.log

theorem StopQuiet.refl (sm : MultipointSm) : StopQuiet sm sm :=
  ⟨rfl, rfl, fun _ => rfl, fun _ => id, rfl⟩

theorem StopQuiet.trans {last : MultipointSm} (first : StopQuiet sm next)
    (second : StopQuiet next last) : StopQuiet sm last where
  tasks := second.tasks.trans first.tasks
  inProgress := second.inProgress.trans first.inProgress
  waits := fun task => (second.waits task).trans (first.waits task)
  solicited := fun task solicited => second.solicited task (first.solicited task solicited)
  stops := second.stops.trans first.stops

theorem StopSound.quiet (sound : sm.StopSound) (quiet : StopQuiet sm next) :
    next.StopSound := by
  have tasks : next.stopTasks = sm.stopTasks := congrArg (Option.getD · []) quiet.tasks
  exact
    { listing := sound.listing.same tasks
        (fun task => quiet.solicited task (sound.listing.solicited task)) quiet.waits
      resting := fun stopped => tasks.trans (sound.resting (quiet.inProgress ▸ stopped))
      outstanding := fun inProgress =>
        quiet.stops ▸ sound.outstanding (quiet.inProgress ▸ inProgress) }

theorem quiet_resetMpState (sm : MultipointSm) : StopQuiet sm sm.resetMpState :=
  ⟨rfl, rfl, fun _ => rfl, fun _ => id, rfl⟩

theorem quiet_sendMpConnectCfmAndTidyUp (sm : MultipointSm) (status : Status) :
    StopQuiet sm (sm.sendMpConnectCfmAndTidyUp status) := by
  rw [sendMpConnectCfmAndTidyUp]
  split
  · exact ⟨rfl, rfl, fun _ => unanswered_sendAll_other (fun _ => rfl) (fun _ => rfl) sm.log,
      fun _ solicited => solicited.sendAll_other fun _ => rfl,
      unanswered_sendAll_other (fun _ => rfl) (fun _ => rfl) sm.log⟩
  · exact .refl sm

theorem quiet_enterGetDeviceToConnect (sm : MultipointSm) (surroundings : Surroundings) :
    StopQuiet sm (sm.enterGetDeviceToConnect surroundings) := by
  rw [enterGetDeviceToConnect]
  split
  · split
    · exact ⟨rfl, rfl, fun _ => unanswered_other rfl rfl,
        fun _ solicited => solicited.other rfl, unanswered_other rfl rfl⟩
    · exact .refl sm
  · exact (quiet_sendMpConnectCfmAndTidyUp sm .success).trans (quiet_resetMpState _)

theorem quiet_setStateToGetDevice (sm : MultipointSm) (surroundings : Surroundings) :
    StopQuiet sm (sm.setStateToGetDevice surroundings) := by
  rw [setStateToGetDevice]
  split
  · exact .refl sm
  · exact (⟨rfl, rfl, fun _ => rfl, fun _ => id, rfl⟩ :
      StopQuiet sm { sm with state := .getDevice }).trans
        (quiet_enterGetDeviceToConnect _ surroundings)

theorem quiet_setStateToGetNextDevice (sm : MultipointSm) (surroundings : Surroundings) :
    StopQuiet sm (sm.setStateToGetNextDevice surroundings) := by
  rw [setStateToGetNextDevice]
  split
  · exact .refl sm
  · refine (⟨rfl, rfl, fun _ => rfl, fun _ => id, rfl⟩ :
      StopQuiet sm { sm with state := .getNextDevice }).trans ?_
    rw [enterGetNextDeviceToConnect]
    split
    · exact quiet_setStateToGetDevice _ surroundings
    · exact (quiet_sendMpConnectCfmAndTidyUp _ .success).trans (quiet_resetMpState _)

theorem quiet_handleConnectCfm (sm : MultipointSm) (status : Status) :
    StopQuiet sm (sm.handleConnectCfm status) := by
  have sent := (⟨rfl, rfl, fun _ => rfl, fun _ => id, rfl⟩ : StopQuiet sm
    { sm with connectCfmWaitCount := sm.connectCfmWaitCount - 1 }).trans
      (quiet_sendMpConnectCfmAndTidyUp _ status)
  rw [handleConnectCfm]
  split
  · exact sent.trans (quiet_resetMpState _)
  · exact sent

variable {surroundings : Surroundings} {task : Task}

theorem quiet_reconnectRequest {linkLoss : Bool}
    (requests : sm.reconnectRequest surroundings task linkLoss = some next) :
    StopQuiet sm next := by
  rw [reconnectRequest] at requests
  split at requests
  · obtain ⟨tasks, added, same⟩ := Option.map_eq_some_iff.mp requests
    dsimp only at same
    split at same
    · subst same
      exact ⟨rfl, rfl, fun _ => unanswered_other rfl rfl,
        fun _ solicited => solicited.other rfl, unanswered_other rfl rfl⟩
    · subst same
      refine StopQuiet.trans ?_ (quiet_setStateToGetDevice _ surroundings)
      exact ⟨rfl, rfl, fun _ => unanswered_other rfl rfl,
        fun _ solicited => solicited.other rfl, unanswered_other rfl rfl⟩
  · cases requests
    exact ⟨rfl, rfl, fun _ => unanswered_other rfl rfl,
      fun _ solicited => solicited.other rfl, unanswered_other rfl rfl⟩

theorem StopListing.complete (listing : sm.StopListing) (status : Status) :
    (sm.sendMpConnectStopCfm status).StopSound := by
  have nobody : ∀ task, (sm.sendMpConnectStopCfm status).stopWaits task = 0 := by
    intro task
    refine (unanswered_sendAll (fun _ => rfl) (fun _ => rfl) sm.log).trans ?_
    split
    · rfl
    · next absent =>
        by_contra waiting
        exact absent (listing.kept task (Nat.pos_of_ne_zero waiting))
  exact
    { listing :=
        { solicited := fun task => (listing.solicited task).sendAll (fun _ => rfl)
            (fun _ => rfl) listing.distinct (listing.listed task)
          kept := fun task waiting => absurd (nobody task) (Nat.ne_of_gt waiting)
          distinct := List.nodup_nil
          listed := fun task member => absurd member List.not_mem_nil }
      resting := fun _ => rfl
      outstanding := nofun }

theorem StopSound.handleConnectStopCfm (sound : sm.StopSound) (surroundings : Surroundings)
    (status : Status) : (sm.handleConnectStopCfm surroundings status).StopSound := by
  have listing : ({ sm with log := .connectStopCfm :: sm.log } : MultipointSm).StopListing :=
    sound.listing.same rfl (fun task => (sound.listing.solicited task).other rfl)
      fun _ => unanswered_other rfl rfl
  rw [MultipointSm.handleConnectStopCfm]
  split
  · next addr connects =>
      exact
        { listing := listing.same rfl (fun task => (listing.solicited task).other rfl)
            fun _ => unanswered_other rfl rfl
          resting := sound.resting
          outstanding := fun _ => Nat.lt_of_lt_of_eq (Nat.succ_pos _) (unanswered_ask rfl).symm }
  · exact listing.complete status

theorem StopListing.add (listing : sm.StopListing) {tasks : List Task}
    (added : addTask sm.stopTasks task = some tasks) (inProgress : Bool) :
    ({ sm with
      stopReconnectTasklist := some tasks
      log := .stopReconnect task :: sm.log
      stopReconnectInProgress := inProgress } : MultipointSm).StopListing where
  solicited := fun other => (listing.solicited other).other rfl
  kept := kept_add added (unanswered_add (fun _ => rfl) fun _ => rfl) listing.kept
  distinct := addTask_nodup added listing.distinct
  listed := listed_add added (unanswered_add (fun _ => rfl) fun _ => rfl) listing.listed

theorem stopReconnect_cases (stops : sm.stopReconnect surroundings task = some next) :
    ∃ tasks, addTask sm.stopTasks task = some tasks ∧
      ((sm.stopReconnectInProgress = true ∧ next = { sm with
          stopReconnectTasklist := some tasks
          log := .stopReconnect task :: sm.log
          stopReconnectInProgress := true }) ∨
        sm.stopReconnectInProgress = false ∧
          ((∃ addr, addrOfHandsetConnectInProgress surroundings = some addr ∧
              next = { sm with
                stopReconnectTasklist := some tasks
                log := .stopReconnect task :: sm.log
                stopReconnectInProgress := true }.stopHandsetReconnection addr) ∨
            addrOfHandsetConnectInProgress surroundings = none ∧
              next = ({ sm with
                stopReconnectTasklist := some tasks
                log := .stopReconnect task :: sm.log
                stopReconnectInProgress := true }.sendMpConnectStopCfm
                  .disconnected).tidyUp)) := by
  obtain ⟨tasks, added, same⟩ := Option.map_eq_some_iff.mp stops
  refine ⟨tasks, added, ?_⟩
  dsimp only at same
  split at same
  · next inProgress =>
      refine .inl ⟨inProgress, ?_⟩
      rw [← same, inProgress]
  · next idle =>
      refine .inr ⟨Bool.eq_false_iff.mpr idle, ?_⟩
      rw [startStopReconnect] at same
      split at same
      · next addr connects => exact .inl ⟨addr, connects, same.symm⟩
      · next connects => exact .inr ⟨connects, same.symm⟩

theorem StopSound.stopReconnect (sound : sm.StopSound)
    (stops : sm.stopReconnect surroundings task = some next) : next.StopSound := by
  obtain ⟨tasks, added, goesOn | starts⟩ := stopReconnect_cases stops
  · obtain ⟨inProgress, rfl⟩ := goesOn
    exact
      { listing := sound.listing.add added true
        resting := nofun
        outstanding := fun _ =>
          Nat.lt_of_lt_of_eq (sound.outstanding inProgress) (unanswered_other rfl rfl).symm }
  · obtain ⟨-, ⟨addr, -, rfl⟩ | ⟨-, rfl⟩⟩ := starts
    · have listing := sound.listing.add added true
      exact
        { listing := listing.same rfl (fun task => (listing.solicited task).other rfl)
            fun _ => unanswered_other rfl rfl
          resting := nofun
          outstanding := fun _ =>
            Nat.lt_of_lt_of_eq (Nat.succ_pos _) (unanswered_ask rfl).symm }
    · exact ((sound.listing.add added true).complete .disconnected).quiet
        ⟨rfl, rfl, fun _ => rfl, fun _ => id, rfl⟩

theorem ConnectSound.stopReconnect (sound : sm.ConnectSound)
    (orderly : sm.Orderly (.stopReconnect task surroundings))
    (stops : sm.stopReconnect surroundings task = some next) : next.ConnectSound := by
  have solicited := sound.reconnecting.listing.solicited
  obtain ⟨tasks, added, goesOn | starts⟩ := stopReconnect_cases stops
  · obtain ⟨inProgress, rfl⟩ := goesOn
    exact sound.same rfl rfl rfl rfl (fun other => (solicited other).other rfl)
      fun _ => unanswered_other rfl rfl
  · obtain ⟨idle, ⟨addr, -, rfl⟩ | ⟨connects, rfl⟩⟩ := starts
    · exact sound.same rfl rfl rfl rfl
        (fun other => ((solicited other).other rfl).other rfl)
        fun _ => (unanswered_other rfl rfl).trans (unanswered_other rfl rfl)
    · have stopped : sm.reconnectionInProgress = false := by
        cases inProgress : sm.reconnectionInProgress with
        | false => rfl
        | true =>
          have connecting := orderly idle inProgress
          rw [connects] at connecting
          contradiction
      obtain ⟨count, none⟩ := sound.reconnecting.listing.resting stopped
      exact sound.same none.symm stopped.symm count.symm (sound.idle stopped).symm
        (fun other => ((solicited other).other rfl).sendAll_other fun _ => rfl)
        fun _ => (unanswered_sendAll_other (fun _ => rfl) (fun _ => rfl) _).trans
          (unanswered_other rfl rfl)

theorem ConnectSound.handleConnectStopCfm (sound : sm.ConnectSound)
    (surroundings : Surroundings) (status : Status) :
    (sm.handleConnectStopCfm surroundings status).ConnectSound := by
  have solicited := sound.reconnecting.listing.solicited
  rw [MultipointSm.handleConnectStopCfm]
  split
  · exact sound.same rfl rfl rfl rfl
      (fun other => ((solicited other).other rfl).other rfl)
      fun _ => (unanswered_other rfl rfl).trans (unanswered_other rfl rfl)
  · exact sound.same rfl rfl rfl rfl
      (fun other => ((solicited other).other rfl).sendAll_other fun _ => rfl)
      fun _ => (unanswered_sendAll_other (fun _ => rfl) (fun _ => rfl) _).trans
        (unanswered_other rfl rfl)

theorem ConnectSound.not_answered_stop (sound : sm.ConnectSound)
    (disorderly : ¬ sm.Orderly (.stopReconnect task surroundings))
    (stops : sm.stopReconnect surroundings task = some next) : ¬ next.Answered := by
  rw [Orderly] at disorderly
  push Not at disorderly
  obtain ⟨idle, inProgress, connects⟩ := disorderly
  obtain ⟨tasks, added, goesOn | starts⟩ := stopReconnect_cases stops
  · rw [goesOn.1] at idle
    contradiction
  · obtain ⟨-, ⟨addr, found, -⟩ | ⟨-, rfl⟩⟩ := starts
    · rw [found] at connects
      exact absurd rfl connects
    · obtain ⟨client, member⟩ :=
        List.exists_mem_of_ne_nil _ (sound.reconnecting.listing.asked inProgress)
      intro answered
      have waiting := sound.reconnecting.listing.listed client member
      refine absurd (answered.kept client (Nat.lt_of_lt_of_eq waiting ?_)).2 nofun
      exact ((unanswered_sendAll_other (fun _ => rfl) (fun _ => rfl) _).trans
        (unanswered_other rfl rfl)).symm

end MultipointSm

namespace MultipointSm

variable {sm next : MultipointSm} {event : MpEvent} {events : List MpEvent}

structure Sound (sm : MultipointSm) : Prop where
  connect : sm.ConnectSound
  stop : sm.StopSound

theorem Sound.init : MultipointSm.init.Sound where
  connect :=
    { reconnecting :=
        { listing :=
            { solicited := fun _ => trivial
              kept := fun _ waiting => absurd waiting (Nat.lt_irrefl 0)
              distinct := List.nodup_nil
              listed := fun _ member => absurd member List.not_mem_nil
              resting := fun _ => ⟨rfl, rfl⟩
              asked := nofun }
          outstanding := nofun }
      idle := fun _ => rfl }
  stop :=
    { listing :=
        { solicited := fun _ => trivial
          kept := fun _ waiting => absurd waiting (Nat.lt_irrefl 0)
          distinct := List.nodup_nil
          listed := fun _ member => absurd member List.not_mem_nil }
      resting := fun _ => rfl
      outstanding := nofun }

theorem Sound.answered (sound : sm.Sound) : sm.Answered where
  connectOnce := sound.connect.reconnecting.listing.solicited
  stopOnce := sound.stop.listing.solicited
  outstanding := sound.connect.reconnecting.outstanding
  kept := fun task waiting => by
    have member := sound.connect.reconnecting.listing.kept task waiting
    refine ⟨member, ?_⟩
    cases inProgress : sm.reconnectionInProgress with
    | true => rfl
    | false =>
      rw [(sound.connect.reconnecting.listing.resting inProgress).2] at member
      exact absurd member List.not_mem_nil
  stopOutstanding := sound.stop.outstanding
  stopKept := fun task waiting => by
    have member := sound.stop.listing.kept task waiting
    refine ⟨member, ?_⟩
    cases inProgress : sm.stopReconnectInProgress with
    | true => rfl
    | false =>
      rw [sound.stop.resting inProgress] at member
      exact absurd member List.not_mem_nil

theorem Sound.step (sound : sm.Sound) (orderly : sm.Orderly event)
    (steps : sm.step event = some next) : next.Sound := by
  cases event with
  | reconnectRequest task linkLoss surroundings =>
    exact ⟨sound.connect.reconnectRequest orderly steps,
      sound.stop.quiet (quiet_reconnectRequest steps)⟩
  | stopReconnect task surroundings =>
    exact ⟨sound.connect.stopReconnect orderly steps, sound.stop.stopReconnect steps⟩
  | connectCfm status =>
    cases steps
    exact ⟨sound.connect.handleConnectCfm status,
      sound.stop.quiet (quiet_handleConnectCfm sm status)⟩
  | connectStopCfm status surroundings =>
    cases steps
    exact ⟨sound.connect.handleConnectStopCfm surroundings status,
      sound.stop.handleConnectStopCfm surroundings status⟩
  | getNextDevice surroundings =>
    cases steps
    exact ⟨sound.connect.setStateToGetNextDevice surroundings,
      sound.stop.quiet (quiet_setStateToGetNextDevice sm surroundings)⟩

theorem Sound.answered_iff (sound : sm.Sound) (steps : sm.step event = some next) :
    next.Answered ↔ sm.Orderly event := by
  refine ⟨fun answered => ?_, fun orderly => (sound.step orderly steps).answered⟩
  by_contra disorderly
  cases event with
  | reconnectRequest task linkLoss surroundings =>
    exact sound.connect.not_answered disorderly steps answered
  | stopReconnect task surroundings =>
    exact sound.connect.not_answered_stop disorderly steps answered
  | connectCfm status => exact disorderly trivial
  | connectStopCfm status surroundings => exact disorderly trivial
  | getNextDevice surroundings => exact disorderly trivial

/-- As long as all events are orderly, every request is confirmed once and none is
forgotten, and the next event keeps it so just when it is orderly. -/
theorem run_reconnects_answered_iff (runs : runAllowed step Orderly events init = some sm) :
    sm.Answered ∧
      ∀ event next, sm.step event = some next → (next.Answered ↔ sm.Orderly event) := by
  have sound : sm.Sound :=
    (Reached.run .start runs).invariant .init
      fun _ _ _ orderly steps sound => sound.step orderly steps
  exact ⟨sound.answered, fun event next steps => sound.answered_iff steps⟩

/-- The handset with the address 7 is the focus device; it can connect, or cannot, and its
state machine is in the state. -/
def oneHandset (state : HandsetState) (canConnect : Bool) : Surroundings :=
  { maxFullyConnected := false
    focusDevice := fun _ => some ⟨7, 3⟩
    handsets := [(7, state)]
    canConnect := fun _ => canConnect
    bargeInEnabled := false }

def stoppedWhileConnecting : List MpEvent :=
  [.reconnectRequest 1 false (oneHandset .disconnected true),
    .reconnectRequest 2 false (oneHandset .connectingBredrAcl true),
    .getNextDevice (oneHandset .connectingBredrProfiles true),
    .stopReconnect 3 (oneHandset .connectingBredrProfiles true),
    .connectCfm .cancelled,
    .connectStopCfm .disconnected (oneHandset .disconnected true)]

theorem stoppedWhileConnecting_answered :
    ∃ sm, runAllowed step Orderly stoppedWhileConnecting init = some sm ∧
      (sm.Answered ∧
        ∀ event next, sm.step event = some next → (next.Answered ↔ sm.Orderly event)) := by
  have found : (runAllowed step Orderly stoppedWhileConnecting init).isSome = true := by
    decide +kernel
  obtain ⟨sm, runs⟩ := Option.isSome_iff_exists.mp found
  exact ⟨sm, runs, run_reconnects_answered_iff runs⟩

/-- A client's request finds a handset that cannot connect, and nothing is waited for.  And a
request is stopped before the handset starts to connect: its client is taken off the list. -/
theorem refusedOrStopped_unanswered :
    (∃ sm, [MpEvent.reconnectRequest 1 false (oneHandset .disconnected false)].foldlM step
        init = some sm ∧
      sm.reconnectionInProgress = true ∧ sm.connectCfmWaitCount = 0 ∧ ¬ sm.Answered) ∧
      ∃ sm, [.reconnectRequest 1 false (oneHandset .disconnected true),
          .stopReconnect 2 (oneHandset .disconnected true), .connectCfm .success].foldlM step
          init = some sm ∧
        sm.log = [.mpConnectStopCfm 2 .disconnected, .stopReconnect 2,
          .connectAddressRequest 7 3, .reconnectRequest 1] ∧ ¬ sm.Answered := by
  constructor
  · refine ⟨_, rfl, rfl, rfl, fun answered => ?_⟩
    exact absurd (answered.outstanding rfl) (by decide)
  · refine ⟨_, rfl, rfl, fun answered => ?_⟩
    exact absurd (answered.kept 1 (by decide)).2 (by decide)

end MultipointSm

end HeadsetAdk.Handset
