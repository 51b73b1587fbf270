import HeadsetAdk.ConManager.Connections
import HeadsetAdk.Lib.Requests

/-! # Changes of the links under a request -/

namespace HeadsetAdk.ConManager

open Requests (unanswered Solicited)
open LinkState (noConfusion)
open Connection (isActive isBle isWaiting unused)

namespace Connection

/-- An LE link that is not disconnected. -/
def ActiveBle (connection : Connection) : Prop :=
  connection.isBle = true ∧ connection.isActive = true

instance (connection : Connection) : Decidable connection.ActiveBle :=
  inferInstanceAs (Decidable (_ ∧ _))

/-- Besides, the stack has been asked to close it. -/
def Closes (connection : Connection) : Prop :=
  connection.ActiveBle ∧ connection.closing = true

instance (connection : Connection) : Decidable connection.Closes :=
  inferInstanceAs (Decidable (_ ∧ _))

end Connection

def Entry.asks (task : Task) (entry : Entry) : Bool := decide (entry = .disconnectAllLe task)

def Entry.confirms (task : Task) (entry : Entry) : Bool :=
  decide (entry = .disconnectAllLeCfm task)

def Entry.isOther : Entry → Bool
  | .disconnectAllLe _ | .disconnectAllLeCfm _ => false
  | _ => true

structure Confirmed (m : ConManager) : Prop where
  solicited : ∀ task, Solicited (Entry.asks task) (Entry.confirms task) m.log
  recorded : ∀ task, unanswered (Entry.asks task) (Entry.confirms task) m.log =
    if m.allLeDisconnectRequester = some task then 1 else 0

structure LeServed (m : ConManager) : Prop extends Confirmed m where
  closing : m.allLeDisconnectRequester ≠ none → ∃ slot, (m.connections slot).Closes

structure Sane (m : ConManager) : Prop where
  waiting : ∀ slot, (m.connections slot).isBle = true → (m.connections slot).closing = true →
    (m.connections slot).isWaiting = false
  lost : ∀ slot, (m.connections slot).state = .aclDisconnectedLinkLoss →
    (m.connections slot).isBle = false

/-- Links that are being closed stay so, and nothing happens about the request. -/
structure Keeps (m next : ConManager) : Prop where
  closes : ∀ slot, (m.connections slot).Closes → (next.connections slot).Closes
  requester : next.allLeDisconnectRequester = m.allLeDisconnectRequester
  log : ∃ recent, next.log = recent ++ m.log ∧ ∀ entry ∈ recent, entry.isOther = true

section Logs

variable {m next : ConManager} {log recent : List Entry} {task : Task}

theorem Entry.isOther_asks {entry : Entry} (task : Task) (other : entry.isOther = true) :
    entry.asks task = false ∧ entry.confirms task = false := by
  constructor
  · refine decide_eq_false ?_
    rintro rfl
    exact Bool.false_ne_true other
  · refine decide_eq_false ?_
    rintro rfl
    exact Bool.false_ne_true other

theorem unanswered_append (other : ∀ entry ∈ recent, entry.isOther = true) :
    unanswered (Entry.asks task) (Entry.confirms task) (recent ++ log) =
      unanswered (Entry.asks task) (Entry.confirms task) log := by
  induction recent with
  | nil => rfl
  | cons entry recent ih =>
    have neither := Entry.isOther_asks task (other entry List.mem_cons_self)
    rw [List.cons_append, Requests.unanswered_other neither.1 neither.2]
    exact ih fun entry member => other entry (List.mem_cons_of_mem _ member)

theorem solicited_append (solicited : Solicited (Entry.asks task) (Entry.confirms task) log)
    (other : ∀ entry ∈ recent, entry.isOther = true) :
    Solicited (Entry.asks task) (Entry.confirms task) (recent ++ log) := by
  induction recent with
  | nil => exact solicited
  | cons entry recent ih =>
    have neither := Entry.isOther_asks task (other entry List.mem_cons_self)
    exact (ih fun entry member => other entry (List.mem_cons_of_mem _ member)).other neither.2

theorem Confirmed.of_log (confirmed : Confirmed m)
    (requester : next.allLeDisconnectRequester = m.allLeDisconnectRequester)
    (log : ∃ recent, next.log = recent ++ m.log ∧ ∀ entry ∈ recent, entry.isOther = true) :
    Confirmed next := by
  obtain ⟨recent, same, other⟩ := log
  refine ⟨fun task => ?_, fun task => ?_⟩
  · rw [same]
    exact solicited_append (confirmed.solicited task) other
  · rw [same, requester, unanswered_append other]
    exact confirmed.recorded task

theorem Keeps.served (keeps : Keeps m next) (served : LeServed m) : LeServed next where
  toConfirmed := served.toConfirmed.of_log keeps.requester keeps.log
  closing recorded := by
    obtain ⟨slot, closes⟩ := served.closing (keeps.requester ▸ recorded)
    exact ⟨slot, keeps.closes slot closes⟩

theorem unanswered_confirm (task other : Task) (log : List Entry) :
    unanswered (Entry.asks other) (Entry.confirms other) (.disconnectAllLeCfm task :: log) =
      if task = other then 0 else unanswered (Entry.asks other) (Entry.confirms other) log := by
  have quiet : (Entry.disconnectAllLeCfm task).asks other = false :=
    decide_eq_false Entry.noConfusion
  split
  · rename_i same
    exact Requests.unanswered_answer quiet (decide_eq_true (congrArg _ same))
  · rename_i distinct
    exact Requests.unanswered_other quiet
      (decide_eq_false fun confirms => distinct (Entry.disconnectAllLeCfm.inj confirms))

theorem unanswered_request (task other : Task) (log : List Entry) :
    unanswered (Entry.asks other) (Entry.confirms other) (.disconnectAllLe task :: log) =
      unanswered (Entry.asks other) (Entry.confirms other) log +
        if task = other then 1 else 0 := by
  split
  · rename_i same
    exact Requests.unanswered_ask (decide_eq_true (congrArg _ same))
  · rename_i distinct
    exact Requests.unanswered_other
      (decide_eq_false fun asks => distinct (Entry.disconnectAllLe.inj asks))
      (decide_eq_false Entry.noConfusion)

theorem Confirmed.confirm (confirmed : Confirmed m)
    (recorded : m.allLeDisconnectRequester = some task) :
    Confirmed { m with
      allLeDisconnectRequester := none
      log := .disconnectAllLeCfm task :: m.log } := by
  refine ⟨fun other => (confirmed.solicited other).cons fun confirms => ?_, fun other => ?_⟩
  · obtain rfl : task = other := Entry.disconnectAllLeCfm.inj (of_decide_eq_true confirms)
    rw [confirmed.recorded task, if_pos recorded]
    exact Nat.one_pos
  · rw [if_neg (Option.some_ne_none other).symm]
    dsimp only
    rw [unanswered_confirm, confirmed.recorded other, recorded]
    split
    · rfl
    · rename_i distinct
      exact if_neg fun equal => distinct (Option.some.inj equal)

theorem Confirmed.record (confirmed : Confirmed m) (task : Task)
    (free : m.allLeDisconnectRequester = none) :
    Confirmed { m with
      allLeDisconnectRequester := some task
      log := .disconnectAllLe task :: m.log } := by
  refine ⟨fun other => (confirmed.solicited other).other
    (decide_eq_false Entry.noConfusion), fun other => ?_⟩
  have before := confirmed.recorded other
  rw [free, if_neg (Option.some_ne_none other).symm] at before
  dsimp only
  rw [unanswered_request, before, Nat.zero_add]
  exact if_congr Option.some_inj.symm rfl rfl

end Logs

section Keeping

variable {m next after : ConManager} {slot : Slot} {vm : Resolver} {tpaddr : TpBdaddr}

theorem Keeps.refl (m : ConManager) : Keeps m m :=
  ⟨fun _ closes => closes, rfl, [], rfl, fun _ member => absurd member List.not_mem_nil⟩

theorem Keeps.trans (first : Keeps m next) (second : Keeps next after) : Keeps m after := by
  obtain ⟨early, sameEarly, otherEarly⟩ := first.log
  obtain ⟨late, sameLate, otherLate⟩ := second.log
  refine ⟨fun slot closes => second.closes slot (first.closes slot closes),
    second.requester.trans first.requester, late ++ early, ?_, fun entry member => ?_⟩
  · rw [sameLate, sameEarly, List.append_assoc]
  · exact (List.mem_append.mp member).elim (otherLate entry) (otherEarly entry)

section

variable (connections : next.connections = m.connections)
  (requester : next.allLeDisconnectRequester = m.allLeDisconnectRequester)

include connections requester

theorem Keeps.note (entry : Entry) (other : entry.isOther = true)
    (log : next.log = entry :: m.log) : Keeps m next :=
  ⟨fun _ closes => connections ▸ closes, requester, [entry], log,
    fun _ member => List.mem_singleton.mp member ▸ other⟩

theorem Keeps.of_eq (log : next.log = m.log) : Keeps m next :=
  ⟨fun _ closes => connections ▸ closes, requester, [], log,
    fun _ member => absurd member List.not_mem_nil⟩

end

theorem Keeps.modify (m : ConManager) (slot : Slot) (change : Connection → Connection)
    (closes : (m.connections slot).Closes → (change (m.connections slot)).Closes) :
    Keeps m (m.modify slot change) := by
  refine ⟨fun other before => ?_, rfl, [], rfl, fun _ member => absurd member List.not_mem_nil⟩
  by_cases same : other = slot
  · rw [same] at before
    rw [same, modify_self]
    exact closes before
  · rw [modify_of_ne m change same]
    exact before

theorem Keeps.setConnectionState (m : ConManager) (slot : Slot) {state : LinkState}
    (up : state ≠ .aclDisconnected ∧ state ≠ .aclDisconnectedLinkLoss) :
    Keeps m (m.setConnectionState slot state) :=
  Keeps.modify m slot (fun connection => { connection with state := state }) fun closes =>
    ⟨⟨closes.1.1, Bool.and_eq_true_iff.mpr ⟨decide_eq_true up.1, decide_eq_true up.2⟩⟩, closes.2⟩

theorem Keeps.resumeUnlessConnecting (m : ConManager) : Keeps m m.resumeUnlessConnecting := by
  rw [ConManager.resumeUnlessConnecting]
  split
  · exact .refl m
  · rw [ConManager.resumeLeScanIfPaused]
    split
    · exact .note rfl rfl (.resumed m.isOpeningBle) rfl rfl
    · exact .refl m

theorem Keeps.sendOpenTpAclRequestInternally (m : ConManager) (slot : Slot) :
    Keeps m (m.sendOpenTpAclRequestInternally slot) :=
  (Keeps.setConnectionState m slot ⟨noConfusion, noConfusion⟩).trans
    (.of_eq rfl rfl rfl)

theorem Keeps.prepareForConnection (m : ConManager) (slot : Slot) :
    Keeps m (m.prepareForConnection slot) := by
  rw [ConManager.prepareForConnection]
  split
  · exact (Keeps.setConnectionState m slot ⟨noConfusion, noConfusion⟩).trans
      (.of_eq rfl rfl rfl)
  · exact .sendOpenTpAclRequestInternally m slot

theorem Keeps.addConnectionUser (m : ConManager) (slot : Slot) (user : Task) :
    Keeps m (m.addConnectionUser slot user) :=
  (Keeps.modify m slot (fun connection => { connection with users := (connection.users + 1) % 8 })
    fun closes => closes).trans (.note rfl rfl (.created slot user) rfl rfl)

structure Touches (m next : ConManager) (slot : Slot) (connection : Connection) : Prop where
  here : next.connections slot = connection
  elsewhere : ∀ other, other ≠ slot → next.connections other = m.connections other
  requester : next.allLeDisconnectRequester = m.allLeDisconnectRequester
  log : ∃ recent, next.log = recent ++ m.log ∧ ∀ entry ∈ recent, entry.isOther = true

variable {connection : Connection}

theorem Touches.modify (m : ConManager) (slot : Slot) (change : Connection → Connection)
    (entry : Entry) (other : entry.isOther = true) :
    Touches m { m.modify slot change with log := entry :: m.log } slot
      (change (m.connections slot)) where
  here := m.modify_self slot change
  elsewhere _ distinct := m.modify_of_ne change distinct
  requester := rfl
  log := ⟨[entry], rfl, fun _ member => List.mem_singleton.mp member ▸ other⟩

theorem Touches.trans {last : Connection} (first : Touches m next slot connection)
    (second : Touches next after slot last) : Touches m after slot last where
  here := second.here
  elsewhere other distinct :=
    (second.elsewhere other distinct).trans (first.elsewhere other distinct)
  requester := second.requester.trans first.requester
  log := by
    obtain ⟨early, sameEarly, otherEarly⟩ := first.log
    obtain ⟨late, sameLate, otherLate⟩ := second.log
    refine ⟨late ++ early, ?_, fun entry member => ?_⟩
    · rw [sameLate, sameEarly, List.append_assoc]
    · exact (List.mem_append.mp member).elim (otherLate entry) (otherEarly entry)

theorem Touches.resumeUnlessConnecting (touches : Touches m next slot connection) :
    Touches m next.resumeUnlessConnecting slot connection := by
  rw [ConManager.resumeUnlessConnecting]
  split
  · exact touches
  · rw [ConManager.resumeLeScanIfPaused]
    split
    · refine touches.trans ⟨touches.here, fun _ _ => rfl, rfl, [.resumed next.isOpeningBle], rfl,
        fun _ member => List.mem_singleton.mp member ▸ rfl⟩
    · exact touches

theorem Touches.keeps (touches : Touches m next slot connection)
    (closes : (m.connections slot).Closes → connection.Closes) : Keeps m next := by
  refine ⟨fun other before => ?_, touches.requester, touches.log⟩
  by_cases same : other = slot
  · rw [same] at before
    rw [same, touches.here]
    exact closes before
  · rw [touches.elsewhere other same]
    exact before

def released (connection : Connection) : Connection :=
  if 0 < connection.users - 1 then { connection with users := connection.users - 1 }
  else if connection.isWaiting = true then unused
  else
    { connection with
      users := connection.users - 1
      closing := true }

theorem releaseAclImpl_touches (user : Option Task)
    (found : m.findConnectionFromBdAddr vm tpaddr = some slot) :
    Touches m (m.releaseAclImpl vm user tpaddr) slot (released (m.connections slot)) := by
  have removed : Touches m (m.removeConnectionUser slot user) slot
      { m.connections slot with users := (m.connections slot).users - 1 } :=
    Touches.modify m slot (fun connection => { connection with users := connection.users - 1 })
      (.released slot user) rfl
  rw [ConManager.releaseAclImpl.eq_def, found]
  dsimp only
  rw [removed.here, released]
  split
  · exact removed
  · refine Touches.resumeUnlessConnecting (removed.trans ?_)
    rw [ConManager.closeConnection, removed.here]
    split
    · rename_i waits
      rw [if_pos (show (m.connections slot).isWaiting = true from waits)]
      have noted : Touches (m.removeConnectionUser slot user)
          { m.removeConnectionUser slot user with
            log := .removed slot :: (m.removeConnectionUser slot user).log } slot
          ((m.removeConnectionUser slot user).connections slot) :=
        ⟨rfl, fun _ _ => rfl, rfl, [.removed slot], rfl,
          fun _ member => List.mem_singleton.mp member ▸ rfl⟩
      exact noted.trans (Touches.modify _ slot (fun _ => unused) (.reset slot) rfl)
    · rename_i sent
      rw [if_neg (show ¬ (m.connections slot).isWaiting = true from sent)]
      have closed := Touches.modify (m.removeConnectionUser slot user) slot
        (fun connection => { connection with closing := true }) (.closeReq slot) rfl
      rw [removed.here] at closed
      exact closed

theorem addConnection_touches {state : LinkState}
    (adds : m.addConnection vm tpaddr state = some (next, slot)) :
    Touches m next slot (next.connections slot) where
  here := rfl
  elsewhere _ distinct := addConnection_elsewhere adds distinct
  requester := by
    rcases addConnection_cases adds with ⟨-, rfl⟩ | ⟨-, rfl⟩ <;> rfl
  log := by
    rcases addConnection_cases adds with ⟨-, rfl⟩ | ⟨-, rfl⟩
    · exact ⟨[], rfl, fun _ member => absurd member List.not_mem_nil⟩
    · exact ⟨[.reset slot], rfl, fun _ member => List.mem_singleton.mp member ▸ rfl⟩

theorem Sane.touches (sane : Sane m) (touches : Touches m next slot connection)
    (waiting : connection.isBle = true → connection.closing = true → connection.isWaiting = false)
    (lost : connection.state = .aclDisconnectedLinkLoss → connection.isBle = false) :
    Sane next where
  waiting other := by
    by_cases same : other = slot
    · rw [same, touches.here]
      exact waiting
    · rw [touches.elsewhere other same]
      exact sane.waiting other
  lost other := by
    by_cases same : other = slot
    · rw [same, touches.here]
      exact lost
    · rw [touches.elsewhere other same]
      exact sane.lost other

theorem Sane.of_eq (sane : Sane m) (connections : next.connections = m.connections) :
    Sane next where
  waiting slot := by
    rw [connections]
    exact sane.waiting slot
  lost slot := by
    rw [connections]
    exact sane.lost slot

theorem Sane.reset (sane : Sane m) (touches : Touches m next slot unused) : Sane next :=
  sane.touches touches (fun ble => absurd ble (by decide)) noConfusion

theorem resetConnection_touches (m : ConManager) (slot : Slot) :
    Touches m (m.resetConnection slot) slot unused :=
  Touches.modify m slot (fun _ => unused) (.reset slot) rfl

theorem setConnectionState_touches (m : ConManager) (slot : Slot) (state : LinkState) :
    Touches m (m.setConnectionState slot state) slot
      { m.connections slot with state := state } where
  here := m.setConnectionState_self slot state
  elsewhere _ distinct := m.setConnectionState_of_ne state distinct
  requester := rfl
  log := ⟨[], rfl, fun _ member => absurd member List.not_mem_nil⟩

theorem resumeUnlessConnecting_connections (m : ConManager) :
    m.resumeUnlessConnecting.connections = m.connections := by
  rw [ConManager.resumeUnlessConnecting]
  split
  · rfl
  · rw [ConManager.resumeLeScanIfPaused]
    split <;> rfl

theorem Sane.releaseAclImpl (sane : Sane m)
    (user : Option Task) : Sane (m.releaseAclImpl vm user tpaddr) := by
  cases found : m.findConnectionFromBdAddr vm tpaddr with
  | none =>
    rw [ConManager.releaseAclImpl.eq_def, found]
    exact sane
  | some slot =>
    refine sane.touches (releaseAclImpl_touches user found) ?_ ?_
    · rw [released]
      split
      · exact sane.waiting slot
      · split
        · exact fun ble => absurd ble (by decide)
        · rename_i sent
          exact fun _ _ => eq_false_of_ne_true sent
    · rw [released]
      split
      · exact sane.lost slot
      · split
        · exact noConfusion
        · exact sane.lost slot

theorem Keeps.releaseAclImpl (sane : Sane m)
    (user : Option Task) : Keeps m (m.releaseAclImpl vm user tpaddr) := by
  cases found : m.findConnectionFromBdAddr vm tpaddr with
  | none =>
    rw [ConManager.releaseAclImpl.eq_def, found]
    exact .refl m
  | some slot =>
    refine (releaseAclImpl_touches user found).keeps fun closes => ?_
    rw [released]
    split
    · exact closes
    · have sent := sane.waiting slot closes.1.1 closes.2
      rw [if_neg (fun waits => Bool.false_ne_true (sent.symm.trans waits))]
      exact ⟨closes.1, rfl⟩

end Keeping

section Opening

variable {m added next : ConManager} {vm : Resolver} {user : Task} {tpaddr : TpBdaddr} {slot : Slot}
  {state : LinkState}

theorem addConnection_spec (adds : m.addConnection vm tpaddr state = some (added, slot)) :
    (m.findConnectionFromBdAddr vm tpaddr = some slot ∧
      added.connections slot = { m.connections slot with state := state }) ∨
    (¬ (m.connections slot).ActiveBle ∧
      added.connections slot = { unused with
          tpaddr := tpaddr
          state := state }) := by
  rcases addConnection_cases adds with ⟨found, rfl⟩ | ⟨missing, rfl⟩
  · exact Or.inl ⟨found, m.setConnectionState_self slot state⟩
  · refine Or.inr ⟨fun active => ?_, ?_⟩
    · rcases addConnection_replaces missing adds with none | lost
      · have ble := of_decide_eq_true active.1
        rw [none] at ble
        exact Transport.noConfusion ble
      · have up := active.2
        rw [isActive, lost] at up
        exact absurd up (by decide)
    · rw [modify_self, resetConnection_self]

theorem Keeps.addConnection (up : state ≠ .aclDisconnected ∧ state ≠ .aclDisconnectedLinkLoss)
    (adds : m.addConnection vm tpaddr state = some (added, slot)) : Keeps m added := by
  refine (addConnection_touches adds).keeps fun closes => ?_
  rcases addConnection_spec adds with ⟨-, same⟩ | ⟨inactive, -⟩
  · rw [same]
    exact ⟨⟨closes.1.1, Bool.and_eq_true_iff.mpr ⟨decide_eq_true up.1, decide_eq_true up.2⟩⟩,
      closes.2⟩
  · exact absurd closes.1 inactive

theorem Sane.addConnection (sane : Sane m)
    (waiting : state ≠ .aclConnectingPendingPause ∧ state ≠ .aclConnectingInternal)
    (lost : state = .aclDisconnectedLinkLoss → tpaddr.transport ≠ .bleAcl)
    (adds : m.addConnection vm tpaddr state = some (added, slot)) : Sane added := by
  have sent : ∀ connection : Connection, connection.state = state →
      connection.isWaiting = false := by
    rintro connection rfl
    rw [isWaiting, decide_eq_false waiting.1, decide_eq_false waiting.2]
    rfl
  refine sane.touches (addConnection_touches adds) (fun _ _ => sent _ ?_) (fun same => ?_)
  · rcases addConnection_spec adds with ⟨-, same⟩ | ⟨-, same⟩ <;> rw [same]
  · rcases addConnection_spec adds with ⟨found, state'⟩ | ⟨-, state'⟩
    · rw [state'] at same ⊢
      rw [isBle, findConnection_transport found]
      exact decide_eq_false (lost same)
    · rw [state'] at same ⊢
      exact decide_eq_false (lost same)

theorem prepareForConnection_touches (m : ConManager) (slot : Slot) :
    ∃ state, (state = .aclConnectingPendingPause ∨ state = .aclConnectingInternal) ∧
      Touches m (m.prepareForConnection slot) slot
        { m.connections slot with state := state } := by
  rw [ConManager.prepareForConnection]
  split
  · exact ⟨_, Or.inl rfl, (setConnectionState_touches m slot .aclConnectingPendingPause).trans
        ⟨m.setConnectionState_self slot _, fun _ _ => rfl, rfl, [], rfl,
          fun _ member => absurd member List.not_mem_nil⟩⟩
  · exact ⟨_, Or.inr rfl, (setConnectionState_touches m slot .aclConnectingInternal).trans
        ⟨m.setConnectionState_self slot _, fun _ _ => rfl, rfl, [], rfl,
          fun _ member => absurd member List.not_mem_nil⟩⟩

theorem addConnectionUser_touches (m : ConManager) (slot : Slot) (user : Task) :
    Touches m (m.addConnectionUser slot user) slot
      { m.connections slot with users := ((m.connections slot).users + 1) % 8 } :=
  Touches.modify m slot (fun connection => { connection with users := (connection.users + 1) % 8 })
    (.created slot user) rfl

theorem Keeps.createNew
    (created : ((m.addConnection vm tpaddr .aclConnecting).map fun added =>
      (added.1.prepareForConnection added.2).addConnectionUser added.2 user) = some next) :
    Keeps m next := by
  obtain ⟨⟨added, slot⟩, adds, rfl⟩ := Option.map_eq_some_iff.mp created
  have adding : Keeps m added := .addConnection ⟨noConfusion, noConfusion⟩ adds
  exact (adding.trans (.prepareForConnection added slot)).trans (.addConnectionUser _ slot user)

theorem Sane.createNew (sane : Sane m)
    (fresh : ∀ slot, m.findConnectionFromBdAddr vm tpaddr = some slot →
      (m.connections slot).isBle = false)
    (created : ((m.addConnection vm tpaddr .aclConnecting).map fun added =>
      (added.1.prepareForConnection added.2).addConnectionUser added.2 user) = some next) :
    Sane next := by
  obtain ⟨⟨added, slot⟩, adds, rfl⟩ := Option.map_eq_some_iff.mp created
  have adding : Sane added := sane.addConnection ⟨noConfusion, noConfusion⟩ noConfusion adds
  obtain ⟨state, waits, prepared⟩ := prepareForConnection_touches added slot
  have using' := addConnectionUser_touches (added.prepareForConnection slot) slot user
  rw [prepared.here] at using'
  refine adding.touches (prepared.trans using') (fun ble closing => ?_) (fun lost => ?_)
  · rcases addConnection_spec adds with ⟨found, same⟩ | ⟨-, same⟩
    · have other := fresh slot found
      dsimp only [isBle] at ble other
      rw [same] at ble
      exact absurd (other.symm.trans ble) Bool.false_ne_true
    · dsimp only at closing
      rw [same] at closing
      exact absurd closing Bool.false_ne_true
  · dsimp only at lost
    rcases waits with rfl | rfl <;> exact noConfusion lost

theorem createAclImpl_keeps (sane : Sane m)
    (created : m.createAclImpl vm user tpaddr = some next) : Keeps m next ∧ Sane next := by
  rw [ConManager.createAclImpl] at created
  dsimp only at created
  split at created
  · rename_i slot found
    split at created
    · rename_i lost
      have touches := setConnectionState_touches m slot .aclDisconnected
      have kept : Keeps m (m.setConnectionState slot .aclDisconnected) := by
        refine touches.keeps fun closes => ?_
        have up := closes.1.2
        rw [isActive, lost] at up
        exact absurd up (by decide)
      have before := sane.lost slot lost
      refine ⟨kept.trans (.createNew created), Sane.createNew ?_ (fun slot' found' => ?_) created⟩
      · exact sane.touches touches (fun ble => absurd (before.symm.trans ble) Bool.false_ne_true)
          noConfusion
      · rw [findConnection_setConnectionState, found] at found'
        rw [← Option.some.inj found', setConnectionState_self]
        exact before
    · rw [← Option.some.inj created]
      have touches := addConnectionUser_touches m slot user
      exact ⟨.addConnectionUser m slot user,
        sane.touches touches (sane.waiting slot) (sane.lost slot)⟩
  · rename_i missing
    refine ⟨.createNew created, sane.createNew (fun slot found => ?_) created⟩
    rw [missing] at found
    exact absurd found.symm (Option.some_ne_none slot)

theorem handleInternalAclOpenReq_keeps (vm : Resolver) (tpaddr : TpBdaddr) (sane : Sane m) :
    Keeps m (m.handleInternalAclOpenReq vm tpaddr) ∧
      Sane (m.handleInternalAclOpenReq vm tpaddr) := by
  have resumed : Keeps m m.resumeUnlessConnecting ∧ Sane m.resumeUnlessConnecting :=
    ⟨.resumeUnlessConnecting m, sane.of_eq (resumeUnlessConnecting_connections m)⟩
  rw [ConManager.handleInternalAclOpenReq.eq_def]
  split
  · rename_i slot _
    split
    · refine ⟨(Keeps.setConnectionState m slot
        ⟨noConfusion, noConfusion⟩).trans
          (.note rfl rfl (.openReq tpaddr.transport m.isLeScanPaused) rfl rfl), ?_⟩
      have opening : Sane (m.setConnectionState slot .aclConnecting) :=
        sane.touches (setConnectionState_touches m slot .aclConnecting) (fun _ _ => rfl)
          noConfusion
      exact opening.of_eq rfl
    · exact resumed
  · exact resumed

theorem pauseCfm_keeps (sane : Sane m) (steps : m.step .pauseCfm = some next) :
    Keeps m next ∧ Sane next := by
  have requester := pauseCfm_requester steps
  rcases pauseCfm_cases steps with ⟨-, -, log, connections⟩ | ⟨-, -, log, connections⟩
  · constructor
    · refine ⟨fun slot closes => ?_, requester, [], log,
        fun _ member => absurd member List.not_mem_nil⟩
      rw [connections]
      dsimp only
      split
      · exact ⟨⟨closes.1.1, rfl⟩, closes.2⟩
      · exact closes
    · refine ⟨fun slot => ?_, fun slot => ?_⟩
      · rw [connections]
        dsimp only
        split
        · rename_i pending
          intro ble closing
          have sent := sane.waiting slot ble closing
          rw [isWaiting, pending] at sent
          exact absurd sent (by decide)
        · exact sane.waiting slot
      · rw [connections]
        dsimp only
        split
        · exact noConfusion
        · exact sane.lost slot
  · exact ⟨.note connections requester (.resumed m.isOpeningBle) rfl log, sane.of_eq connections⟩

end Opening

end HeadsetAdk.ConManager
