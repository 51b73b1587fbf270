import HeadsetAdk.Handset.HandsetMessages
import HeadsetAdk.Lib.EventLog

/-! # The clients that a handset's machine serves -/

namespace HeadsetAdk.Handset

open TaskLists

/-- What clients ask for. -/
inductive Kind
  | connect
  | disconnect
  | stop
deriving DecidableEq

def asks : Kind → Task → Entry → Bool
  | .connect, client, .connectRequest task => decide (task = client)
  | .disconnect, client, .disconnectRequest task => decide (task = client)
  | .stop, client, .stopConnect task => decide (task = client)
  | _, _, _ => false

def answers : Kind → Task → Entry → Bool
  | .connect, client, .connectCfm task _ _ => decide (task = client)
  | .disconnect, client, .disconnectCfm task _ _ => decide (task = client)
  | .stop, client, .connectStopCfm task _ _ => decide (task = client)
  | _, _, _ => false

def unanswered (kind : Kind) (client : Task) (log : List Entry) : Nat :=
  Requests.unanswered (asks kind client) (answers kind client) log

structure Listed (waiting : Kind → List Task) (log : List Entry) : Prop where
  distinct : ∀ kind, (waiting kind).Nodup
  solicited : ∀ kind client, Requests.Solicited (asks kind client) (answers kind client) log
  waits : ∀ kind client, client ∈ waiting kind ↔ 0 < unanswered kind client log

section Listed

variable {waiting : Kind → List Task} {log : List Entry} {kind : Kind} {client : Task}

structure Confirms (kind : Kind) (make : Task → Entry) : Prop where
  quiet : ∀ other client task, asks other client (make task) = false
  own : ∀ client task, answers kind client (make task) = decide (task = client)
  silent : ∀ other client task, other ≠ kind → answers other client (make task) = false

theorem confirms_connectCfm (addr : Bdaddr) (status : Status) :
    Confirms .connect fun task => .connectCfm task addr status where
  quiet := fun other _ _ => by cases other <;> rfl
  own := fun _ _ => rfl
  silent := fun other _ _ apart => by cases other <;> first | rfl | exact absurd rfl apart

theorem confirms_disconnectCfm (addr : Bdaddr) (status : Status) :
    Confirms .disconnect fun task => .disconnectCfm task addr status where
  quiet := fun other _ _ => by cases other <;> rfl
  own := fun _ _ => rfl
  silent := fun other _ _ apart => by cases other <;> first | rfl | exact absurd rfl apart

theorem confirms_connectStopCfm (addr : Bdaddr) (status : Status) :
    Confirms .stop fun task => .connectStopCfm task addr status where
  quiet := fun other _ _ => by cases other <;> rfl
  own := fun _ _ => rfl
  silent := fun other _ _ apart => by cases other <;> first | rfl | exact absurd rfl apart

variable {waiting' : Kind → List Task}

theorem Listed.complete {make : Task → Entry} (listed : Listed waiting log)
    (confirms : Confirms kind make) (emptied : waiting' kind = [])
    (same : ∀ other, other ≠ kind → waiting' other = waiting other) :
    Listed waiting' (Requests.sendAll make (waiting kind) log) := by
  constructor
  · intro other
    by_cases own : other = kind
    · rw [own, emptied]
      exact List.nodup_nil
    · rw [same other own]
      exact listed.distinct other
  · intro other client
    by_cases own : other = kind
    · subst own
      exact (listed.solicited other client).sendAll (confirms.quiet other client)
        (confirms.own client) (listed.distinct other) (listed.waits other client).mp
    · exact (listed.solicited other client).sendAll_other
        fun task => confirms.silent other client task own
  · intro other client
    by_cases own : other = kind
    · subst own
      rw [emptied, unanswered, Requests.unanswered_sendAll (confirms.quiet other client)
        (confirms.own client)]
      refine iff_of_false List.not_mem_nil ?_
      split
      · exact Nat.lt_irrefl 0
      · next absent => exact fun some => absent ((listed.waits other client).mpr some)
    · rw [same other own, unanswered, Requests.unanswered_sendAll_other
        (confirms.quiet other client) fun task => confirms.silent other client task own]
      exact listed.waits other client

theorem Listed.ask {entry : Entry} (listed : Listed waiting log)
    (asking : ∀ other task, asks other task entry = decide (other = kind ∧ task = client))
    (nothing : ∀ other task, answers other task entry = false) (distinct : (waiting' kind).Nodup)
    (joins : ∀ task, task ∈ waiting' kind ↔ task = client ∨ task ∈ waiting kind)
    (same : ∀ other, other ≠ kind → waiting' other = waiting other) :
    Listed waiting' (entry :: log) := by
  constructor
  · intro other
    by_cases own : other = kind
    · exact own ▸ distinct
    · rw [same other own]
      exact listed.distinct other
  · exact fun other task => (listed.solicited other task).other (nothing other task)
  · intro other task
    by_cases own : other = kind
    · subst own
      rw [joins, unanswered]
      by_cases mine : task = client
      · rw [Requests.unanswered_ask (by rw [asking]; exact decide_eq_true ⟨rfl, mine⟩)]
        exact iff_of_true (.inl mine) (Nat.succ_pos _)
      · rw [Requests.unanswered_other
          (by rw [asking]; exact decide_eq_false fun both => mine both.2) (nothing other task)]
        exact (or_iff_right mine).trans (listed.waits other task)
    · rw [same other own, unanswered, Requests.unanswered_other
        (by rw [asking]; exact decide_eq_false fun both => own both.1) (nothing other task)]
      exact listed.waits other task

end Listed

namespace HandsetSm

variable {context : Context} {sm sm' : HandsetSm} {status : Status}

def waiting (sm : HandsetSm) : Kind → List Task
  | .connect => sm.connectList
  | .disconnect => sm.disconnectList
  | .stop => sm.connectStopTask.toList

def IsListed (sm : HandsetSm) : Prop := Listed sm.waiting sm.log

/-- Nothing that clients see is different. -/
structure Unseen (sm sm' : HandsetSm) : Prop where
  connectList : sm'.connectList = sm.connectList
  disconnectList : sm'.disconnectList = sm.disconnectList
  connectStopTask : sm'.connectStopTask = sm.connectStopTask
  log : sm'.log = sm.log

theorem Unseen.refl (sm : HandsetSm) : Unseen sm sm := ⟨rfl, rfl, rfl, rfl⟩

theorem Unseen.listed (unseen : Unseen sm sm') (listed : sm.IsListed) : sm'.IsListed := by
  have same : sm'.waiting = sm.waiting := by
    funext kind
    cases kind with
    | connect => exact unseen.connectList
    | disconnect => exact unseen.disconnectList
    | stop => exact congrArg Option.toList unseen.connectStopTask
  rw [IsListed, same, unseen.log]
  exact listed

theorem IsListed.completeConnectRequests (listed : sm.IsListed) (status : Status) :
    (sm.completeConnectRequests status).IsListed :=
  Listed.complete listed (confirms_connectCfm sm.handsetAddr status) rfl
    fun other apart => by cases other <;> first | rfl | exact absurd rfl apart

theorem IsListed.completeDisconnectRequests (listed : sm.IsListed) (status : Status) :
    (sm.completeDisconnectRequests status).IsListed :=
  Listed.complete listed (confirms_disconnectCfm sm.bdAddr status) rfl
    fun other apart => by cases other <;> first | rfl | exact absurd rfl apart

theorem completeConnectStopRequests_eq (sm : HandsetSm) (status : Status) :
    sm.completeConnectStopRequests status = { sm with
        log := Requests.sendAll (fun task => .connectStopCfm task sm.handsetAddr status)
          sm.connectStopTask.toList sm.log
        connectStopTask := none } := by
  rw [completeConnectStopRequests]
  split
  · next task waits => rw [waits]; rfl
  · next nobody =>
    obtain ⟨state, device, requested, excluded, attempts, connects, disconnects, stop, le, addr,
      queue, acl, log⟩ := sm
    dsimp only at nobody
    subst nobody
    rfl

theorem completeConnectStopRequests_stopTask (sm : HandsetSm) (status : Status) :
    (sm.completeConnectStopRequests status).connectStopTask = none := by
  rw [completeConnectStopRequests_eq]

theorem completeConnectStopRequests_state (sm : HandsetSm) (status : Status) :
    (sm.completeConnectStopRequests status).state = sm.state := by
  rw [completeConnectStopRequests_eq]

theorem IsListed.completeConnectStopRequests (listed : sm.IsListed) (status : Status) :
    (sm.completeConnectStopRequests status).IsListed := by
  rw [completeConnectStopRequests_eq]
  exact Listed.complete listed (confirms_connectStopCfm sm.handsetAddr status) rfl
    fun other apart => by cases other <;> first | rfl | exact absurd rfl apart

theorem bleDisconnectIfConnected_eq (context : Context) (sm : HandsetSm) :
    sm.bleDisconnectIfConnected context =
      if sm.bleIsConnected context then { sm with leState := .disconnecting } else sm := by
  rw [bleDisconnectIfConnected]
  split
  · next connected =>
    rw [bleIsConnected, Bool.and_eq_true, Bool.and_eq_true] at connected
    rw [bleSetDisconnecting]
    split
    · next already =>
      obtain ⟨state, device, requested, excluded, attempts, connects, disconnects, stop, le, addr,
        queue, acl, log⟩ := sm
      dsimp only at already
      rw [already]
    · dsimp only
      rw [if_pos connected.1.2]
  · rfl

theorem bleDisconnectIfConnected_unseen (context : Context) (sm : HandsetSm) :
    Unseen sm (sm.bleDisconnectIfConnected context) := by
  rw [bleDisconnectIfConnected_eq]
  split
  · exact ⟨rfl, rfl, rfl, rfl⟩
  · exact .refl sm

theorem exitState_unseen (context : Context) (sm : HandsetSm) (next : HandsetState) :
    Unseen sm (sm.exitState context next) := by
  rw [exitState.eq_def]
  split
  · split
    · exact bleDisconnectIfConnected_unseen context sm
    · exact .refl sm
  · exact ⟨rfl, rfl, rfl, rfl⟩
  · exact ⟨rfl, rfl, rfl, rfl⟩
  · exact ⟨rfl, rfl, rfl, rfl⟩
  · exact .refl sm

/-- A state in which a machine does not wait for anybody. -/
def stable : HandsetState → Bool
  | .disconnected => true
  | .connectedBredr => true
  | _ => false

/-- A message that goes on with paging the handset, or ends it. -/
def Pages : Internal → Bool
  | .connectAclComplete => true
  | .connectAclRetryReq => true
  | .disconnectReq _ => true
  | .connectStopReq _ => true
  | .connectReq _ _ => false
  | .connectProfilesReq => false

/-- In a stable state clients wait only for messages that are in the queue, and nobody
waits on a machine that is not in use.  Paging does not come to an end by itself. -/
structure Rested (sm : HandsetSm) : Prop where
  connect : stable sm.state = true → sm.connectList ≠ [] →
    ∃ message ∈ sm.queue, message.isConnectReq = true
  stop : stable sm.state = true → sm.connectStopTask ≠ none →
    ∃ message ∈ sm.queue, message.isConnectStopReq = true
  unused : sm.state = .null → ∀ kind, sm.waiting kind = []
  paging : sm.state = .connectingBredrAcl → ∃ message ∈ sm.queue, Pages message = true

/-- Requests are answered once, and no client waits where nothing would come. -/
structure Served (sm : HandsetSm) : Prop where
  listed : sm.IsListed
  rested : sm.Rested

theorem IsListed.busy (listed : sm.IsListed)
    (state : sm.state = .connectingBredrProfiles ∨ sm.state = .disconnectingBredr ∨
      sm.state = .stopConnectingBredrProfiles) : sm.Served := by
  refine ⟨listed, ?_⟩
  rcases state with state | state | state
  all_goals
    constructor
    · rw [state]
      nofun
    · rw [state]
      nofun
    · rw [state]
      nofun
    · rw [state]
      nofun

theorem IsListed.settled (listed : sm.IsListed) (state : stable sm.state = true)
    (connect : sm.connectList = []) (stop : sm.connectStopTask = none) : sm.Served := by
  refine ⟨listed, fun _ waits => absurd connect waits, fun _ waits => absurd stop waits,
    fun unused => ?_, fun paging => ?_⟩
  · rw [unused] at state
    exact absurd state Bool.false_ne_true
  · rw [paging] at state
    exact absurd state Bool.false_ne_true

end HandsetSm

namespace Handling

theorem enableConnectable_sm (context : Context) (handling : Handling) :
    (handling.enableConnectable context).sm = handling.sm := by
  rw [enableConnectable]
  split
  · rfl
  · rfl

theorem disableConnectable_sm (context : Context) (handling : Handling) :
    (handling.disableConnectable context).sm = handling.sm := by
  rw [disableConnectable]
  split
  · rfl
  · rfl

end Handling

end HeadsetAdk.Handset
