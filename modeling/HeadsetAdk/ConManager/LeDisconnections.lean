import HeadsetAdk.ConManager.LinkChanges
import HeadsetAdk.Lib.EventLog

/-! # Disconnecting all LE links -/

namespace HeadsetAdk.ConManager

open Option (some.inj some_ne_none)
open LinkState (noConfusion)

section Dropping

variable {m dropped added next : ConManager} {vm : Resolver} {tpaddr : TpBdaddr} {slot : Slot}

structure Drops (m dropped : ConManager) (slot : Slot) : Prop where
  active : ∀ other, (dropped.connections other).ActiveBle ↔
    other ≠ slot ∧ (m.connections other).ActiveBle
  closes : ∀ other, (dropped.connections other).Closes ↔
    other ≠ slot ∧ (m.connections other).Closes
  requester : dropped.allLeDisconnectRequester = m.allLeDisconnectRequester
  log : ∃ recent, dropped.log = recent ++ m.log ∧ ∀ entry ∈ recent, entry.isOther = true

/-- Another LE link is being closed. -/
def ClosesOther (m : ConManager) (slot : Slot) : Prop :=
  ∃ other, other ≠ slot ∧ (m.connections other).Closes

theorem unused_not_active : ¬ Connection.unused.ActiveBle := by
  decide

theorem Drops.of_touches (touches : Touches m dropped slot Connection.unused) :
    Drops m dropped slot where
  active other := by
    by_cases same : other = slot
    · rw [same, touches.here]
      exact iff_of_false unused_not_active fun both => both.1 rfl
    · rw [touches.elsewhere other same]
      exact (and_iff_right same).symm
  closes other := by
    by_cases same : other = slot
    · rw [same, touches.here]
      exact iff_of_false (fun closes => unused_not_active closes.1) fun both => both.1 rfl
    · rw [touches.elsewhere other same]
      exact (and_iff_right same).symm
  requester := touches.requester
  log := touches.log

section

variable (drops : Drops m dropped slot)

include drops

theorem Drops.touches {other : Slot} {connection : Connection}
    (touches : Touches dropped next other connection)
    (before : ¬ (dropped.connections other).ActiveBle) (after : ¬ connection.ActiveBle) :
    Drops m next slot where
  active third := by
    rw [← drops.active third]
    by_cases same : third = other
    · rw [same, touches.here]
      exact iff_of_false after before
    · rw [touches.elsewhere third same]
  closes third := by
    rw [← drops.closes third]
    by_cases same : third = other
    · rw [same, touches.here]
      exact iff_of_false (fun closes => after closes.1) fun closes => before closes.1
    · rw [touches.elsewhere third same]
  requester := touches.requester.trans drops.requester
  log := by
    obtain ⟨early, sameEarly, otherEarly⟩ := drops.log
    obtain ⟨late, sameLate, otherLate⟩ := touches.log
    refine ⟨late ++ early, ?_, fun entry member => ?_⟩
    · rw [sameLate, sameEarly, List.append_assoc]
    · exact (List.mem_append.mp member).elim (otherLate entry) (otherEarly entry)

theorem Drops.addLinkLoss {other : Slot} (bredr : tpaddr.transport = .bredrAcl)
    (adds : dropped.addConnection vm tpaddr .aclDisconnectedLinkLoss = some (added, other)) :
    Drops m added slot := by
  refine drops.touches (addConnection_touches adds) ?_ ?_
  · rcases addConnection_spec adds with ⟨found, -⟩ | ⟨inactive, -⟩
    · intro active
      have ble := of_decide_eq_true active.1
      rw [findConnection_transport found, bredr] at ble
      exact Transport.noConfusion ble
    · exact inactive
  · have lost : (added.connections other).state = .aclDisconnectedLinkLoss := by
      rcases addConnection_spec adds with ⟨-, same⟩ | ⟨-, same⟩ <;> rw [same]
    intro active
    have up := active.2
    rw [Connection.isActive, lost] at up
    exact absurd up (by decide)

theorem Drops.served_iff (served : LeServed m) :
    LeServed dropped ↔ m.allLeDisconnectRequester = none ∨ ClosesOther m slot := by
  constructor
  · intro after
    by_cases free : m.allLeDisconnectRequester = none
    · exact Or.inl free
    · obtain ⟨other, closes⟩ := after.closing (drops.requester ▸ free)
      exact Or.inr ⟨other, (drops.closes other).mp closes⟩
  · intro either
    refine ⟨served.toConfirmed.of_log drops.requester drops.log, fun recorded => ?_⟩
    obtain ⟨other, closes⟩ := either.resolve_left (drops.requester ▸ recorded)
    exact ⟨other, (drops.closes other).mpr closes⟩

theorem Drops.check_served_iff (served : LeServed m) :
    LeServed dropped.checkForAllLeDisconnected ↔ m.allLeDisconnectRequester = none ∨
      (∀ other, other ≠ slot → ¬ (m.connections other).ActiveBle) ∨ ClosesOther m slot := by
  have some_iff : dropped.hasActiveBle = true ↔
      ∃ other, other ≠ slot ∧ (m.connections other).ActiveBle :=
    decide_eq_true_iff.trans (exists_congr drops.active)
  rw [ConManager.checkForAllLeDisconnected.eq_def]
  split
  · rename_i requester recorded
    have before : m.allLeDisconnectRequester = some requester := drops.requester ▸ recorded
    split
    · rename_i active
      rw [drops.served_iff served]
      have left := some_iff.mp active
      refine or_congr_right (or_iff_right fun none => ?_).symm
      exact left.elim fun other both => none other both.1 both.2
    · rename_i inactive
      refine iff_of_true ⟨?_, fun recorded => absurd rfl recorded⟩ (Or.inr (Or.inl ?_))
      · exact (served.toConfirmed.of_log drops.requester drops.log).confirm recorded
      · exact fun other distinct active => inactive (some_iff.mpr ⟨other, distinct, active⟩)
  · rename_i free
    have before : m.allLeDisconnectRequester = none := drops.requester ▸ free
    rw [drops.served_iff served]
    exact iff_of_true (Or.inl before) (Or.inl before)

end

end Dropping

section Indications

variable {m next : ConManager} {vm : Resolver} {tpaddr : TpBdaddr}

def FailsHarmless (m : ConManager) (vm : Resolver) (tpaddr : TpBdaddr) : Prop :=
  ∀ slot, m.findConnectionFromBdAddr vm tpaddr = some slot →
    m.allLeDisconnectRequester = none ∨ ClosesOther m slot

def ClosesHarmless (m : ConManager) (vm : Resolver) (tpaddr : TpBdaddr) : Prop :=
  ∀ slot, m.findConnectionFromBdAddr vm tpaddr = some slot →
    m.allLeDisconnectRequester = none ∨
      (∀ other, other ≠ slot → ¬ (m.connections other).ActiveBle) ∨ ClosesOther m slot

theorem opened_keeps (sane : Sane m)
    (opened : m.handleAclOpenedIndication vm tpaddr true = some next) :
    Keeps m next ∧ Sane next := by
  obtain ⟨⟨added, slot⟩, adds, rfl⟩ := Option.map_eq_some_iff.mp opened
  constructor
  · exact (Keeps.addConnection ⟨noConfusion, noConfusion⟩ adds).trans
      (.resumeUnlessConnecting added)
  · refine Sane.of_eq ?_ (resumeUnlessConnecting_connections added)
    exact sane.addConnection ⟨noConfusion, noConfusion⟩
      noConfusion adds

theorem failed_served_iff (served : LeServed m) (sane : Sane m)
    (failed : m.handleAclOpenedIndication vm tpaddr false = some next) :
    (LeServed next ↔ FailsHarmless m vm tpaddr) ∧ Sane next := by
  rw [ConManager.handleAclOpenedIndication.eq_def] at failed
  rw [FailsHarmless]
  split at failed
  · contradiction
  · split at failed
    · rename_i slot found
      have touches := (resetConnection_touches m slot).resumeUnlessConnecting
      rw [found, ← some.inj failed]
      refine ⟨((Drops.of_touches touches).served_iff served).trans ?_, sane.reset touches⟩
      exact ⟨fun either slot' same => some.inj same ▸ either, fun all => all slot rfl⟩
    · rename_i missing
      rw [missing, ← some.inj failed]
      refine ⟨iff_of_true ((Keeps.resumeUnlessConnecting m).served served) fun slot found =>
        absurd found.symm (some_ne_none slot), ?_⟩
      exact sane.of_eq (resumeUnlessConnecting_connections m)

theorem Sane.checkForAllLeDisconnected (sane : Sane m) : Sane m.checkForAllLeDisconnected := by
  rw [ConManager.checkForAllLeDisconnected.eq_def]
  split
  · split
    · exact sane
    · exact sane.of_eq rfl
  · exact sane

theorem closed_served_iff (served : LeServed m) (sane : Sane m) {handsetTimeout : Bool}
    (closed : m.handleAclClosedIndication vm tpaddr handsetTimeout = some next) :
    (LeServed next ↔ ClosesHarmless m vm tpaddr) ∧ Sane next := by
  rw [ConManager.handleAclClosedIndication.eq_def] at closed
  rw [ClosesHarmless]
  split at closed
  · rename_i slot found
    have touches := resetConnection_touches m slot
    have drops := Drops.of_touches touches
    have reset := sane.reset touches
    rw [found]
    split at closed
    · rename_i lost
      obtain ⟨⟨added, other⟩, adds, rfl⟩ := Option.map_eq_some_iff.mp closed
      refine ⟨((drops.addLinkLoss lost.2 adds).check_served_iff served).trans ?_, ?_⟩
      · exact ⟨fun either slot' same => some.inj same ▸ either, fun all => all slot rfl⟩
      · refine Sane.checkForAllLeDisconnected (reset.addConnection
          ⟨noConfusion, noConfusion⟩ (fun _ => ?_) adds)
        rw [lost.2]
        exact Transport.noConfusion
    · rw [← some.inj closed]
      refine ⟨(drops.check_served_iff served).trans ?_, reset.checkForAllLeDisconnected⟩
      exact ⟨fun either slot' same => some.inj same ▸ either, fun all => all slot rfl⟩
  · rename_i missing
    rw [missing, ← some.inj closed]
    exact ⟨iff_of_true served fun slot found => absurd found.symm (some_ne_none slot), sane⟩

theorem allClosed_served_iff (served : LeServed m) :
    (LeServed m.handleAllAclsClosed ↔ m.allLeDisconnectRequester = none) ∧
      Sane m.handleAllAclsClosed := by
  have confirmed : Confirmed m.handleAllAclsClosed := by
    refine served.toConfirmed.of_log rfl ⟨m.forcedDisconnectTask.toList.map Entry.closeAllCfm ++
      (List.finRange maxConnections).reverse.map Entry.reset, ?_, fun entry member => ?_⟩
    · rw [List.append_assoc]
      rfl
    · cases List.mem_append.mp member with
      | inl forced =>
        obtain ⟨task, -, rfl⟩ := List.mem_map.mp forced
        rfl
      | inr resets =>
        obtain ⟨slot, -, rfl⟩ := List.mem_map.mp resets
        rfl
  refine ⟨⟨fun after => ?_, fun free => ⟨confirmed, fun recorded => absurd free recorded⟩⟩,
    fun _ ble => absurd ble Bool.false_ne_true, fun _ => noConfusion⟩
  by_contra recorded
  obtain ⟨slot, closes⟩ := after.closing recorded
  exact unused_not_active closes.1

end Indications

section Requests

variable {m next : ConManager} {vm : Resolver} {requester : Task} {slot other : Slot}

def Target (m : ConManager) (vm : Resolver) (slot : Slot) : Prop :=
  (m.connections slot).ActiveBle ∧ (m.connections slot).isWaiting = false ∧
    ((m.connections slot).closing = true ∨ ((m.connections slot).users ≤ 1 ∧
      m.findConnectionFromBdAddr vm (m.connections slot).tpaddr = some slot))

theorem find?_of_imp {α : Type} {p q : α → Bool} {list : List α} {a : α}
    (found : list.find? p = some a) (still : q a = true)
    (fewer : ∀ b, q b = true → p b = true) : list.find? q = some a := by
  induction list with
  | nil => exact absurd found.symm (some_ne_none a)
  | cons b list ih =>
    rw [List.find?_cons] at found ⊢
    cases now : p b with
    | true =>
      rw [now] at found
      obtain rfl := some.inj found
      rw [still]
    | false =>
      rw [now] at found
      have later : q b = false := eq_false_of_ne_true fun same =>
        Bool.false_ne_true (now.symm.trans (fewer b same))
      rw [later]
      exact ih found

theorem find_released (touches : Touches m next other (released (m.connections other)))
    (distinct : slot ≠ other) (ble : (m.connections slot).isBle = true)
    (found : m.findConnectionFromBdAddr vm (m.connections slot).tpaddr = some slot) :
    next.findConnectionFromBdAddr vm (next.connections slot).tpaddr = some slot := by
  rw [touches.elsewhere slot distinct]
  have before : (List.finRange maxConnections).find? (fun third =>
      decide ((m.connections third).tpaddr.resolve vm =
        (m.connections slot).tpaddr.resolve vm)) = some slot := found
  refine find?_of_imp before (decide_eq_true ?_) fun third same => ?_
  · rw [touches.elsewhere slot distinct]
  · have same := of_decide_eq_true same
    by_cases here : third = other
    · rw [here, touches.here, released] at same
      rw [here]
      split at same
      · exact decide_eq_true same
      · split at same
        · have transports := congrArg TpBdaddr.transport same
          rw [resolve_transport, resolve_transport, of_decide_eq_true ble] at transports
          exact Transport.noConfusion transports
        · exact decide_eq_true same
    · rw [touches.elsewhere third here] at same
      exact decide_eq_true same

variable {connection : Connection}

theorem released_closing (sent : connection.isWaiting = false)
    (closing : connection.closing = true ∨ connection.users ≤ 1) :
    (released connection).closing = true := by
  rw [released, sent]
  split
  · rename_i more
    exact closing.resolve_right (by omega)
  · rfl

theorem released_keeps (sent : connection.isWaiting = false) :
    (released connection).tpaddr = connection.tpaddr ∧
      (released connection).state = connection.state := by
  rw [released, sent]
  split
  · exact ⟨rfl, rfl⟩
  · exact ⟨rfl, rfl⟩

theorem Target.release (target : Target m vm slot)
    (touches : Touches m next other (released (m.connections other))) :
    Target next vm slot ∧ (other = slot → (next.connections slot).closing = true) := by
  obtain ⟨active, sent, closing⟩ := target
  by_cases same : slot = other
  · subst same
    obtain ⟨tpaddr, state⟩ := released_keeps sent
    have closes := released_closing sent (closing.imp_right And.left)
    rw [← touches.here] at tpaddr state closes
    refine ⟨⟨?_, ?_, Or.inl closes⟩, fun _ => closes⟩
    · rw [Connection.ActiveBle, Connection.isBle, Connection.isActive, tpaddr, state]
      exact active
    · rw [Connection.isWaiting, state]
      exact sent
  · refine ⟨?_, fun equal => absurd equal.symm same⟩
    have kept := touches.elsewhere slot same
    refine ⟨kept ▸ active, kept ▸ sent, ?_⟩
    refine closing.imp (kept ▸ ·) fun few => ⟨kept ▸ few.1, ?_⟩
    exact find_released touches same active.1 few.2

def ClosedFor (m : ConManager) (requester : Task) (slot : Slot) : Prop :=
  m.allLeDisconnectRequester = some requester ∧ (m.connections slot).closing = true

theorem Target.releaseAclImpl (target : Target m vm slot) (sane : Sane m) (tpaddr : TpBdaddr) :
    Target (m.releaseAclImpl vm none tpaddr) vm slot ∧
      ((m.connections slot).closing = true ∨ tpaddr = (m.connections slot).tpaddr →
        ((m.releaseAclImpl vm none tpaddr).connections slot).closing = true) := by
  have closes : (m.connections slot).closing = true →
      ((m.releaseAclImpl vm none tpaddr).connections slot).closing = true := fun closing =>
    ((Keeps.releaseAclImpl sane none).closes slot ⟨target.1, closing⟩).2
  cases found : m.findConnectionFromBdAddr vm tpaddr with
  | none =>
    have same : m.releaseAclImpl vm none tpaddr = m := by
      rw [ConManager.releaseAclImpl.eq_def, found]
    refine ⟨by rw [same]; exact target, fun either => either.elim closes ?_⟩
    rintro rfl
    refine target.2.2.elim closes fun few => ?_
    rw [few.2] at found
    exact absurd found (some_ne_none slot)
  | some other =>
    have release := target.release (releaseAclImpl_touches none found)
    refine ⟨release.1, fun either => either.elim closes ?_⟩
    rintro rfl
    refine target.2.2.elim closes fun few => release.2 ?_
    exact some.inj (found.symm.trans few.2)

theorem disconnectLe_spec (vm : Resolver) (slot : Slot) (sane : Sane m) (requester : Task)
    (other : Slot) :
    Sane (m.disconnectLe vm requester other) ∧
      (∃ recent, (m.disconnectLe vm requester other).log = recent ++ m.log ∧
        ∀ entry ∈ recent, entry.isOther = true) ∧
      (Target m vm slot → Target (m.disconnectLe vm requester other) vm slot ∧
        (ClosedFor m requester slot ∨ other = slot →
          ClosedFor (m.disconnectLe vm requester other) requester slot)) := by
  rw [disconnectLe]
  split
  · have asked : Sane { m with allLeDisconnectRequester := some requester } := sane.of_eq rfl
    have keeps : Keeps { m with allLeDisconnectRequester := some requester }
        (ConManager.releaseAclImpl { m with allLeDisconnectRequester := some requester } vm none
          (m.connections other).tpaddr) := .releaseAclImpl asked none
    refine ⟨asked.releaseAclImpl none, keeps.log, fun target => ?_⟩
    have kept : Target { m with allLeDisconnectRequester := some requester } vm slot := target
    have release := kept.releaseAclImpl asked (m.connections other).tpaddr
    refine ⟨release.1, fun either => ⟨keeps.requester, release.2 ?_⟩⟩
    exact either.imp And.right fun same => by rw [same]
  · rename_i inactive
    refine ⟨sane, ⟨[], rfl, fun _ member => absurd member List.not_mem_nil⟩, fun target => ?_⟩
    refine ⟨target, fun either => either.resolve_right ?_⟩
    rintro rfl
    exact inactive target.1

theorem disconnectLoop_spec (vm : Resolver) (slot : Slot) (sane : Sane m) (requester : Task)
    (slots : List Slot) :
    Sane (slots.foldl (fun m slot => m.disconnectLe vm requester slot) m) ∧
      (∃ recent, (slots.foldl (fun m slot => m.disconnectLe vm requester slot) m).log =
        recent ++ m.log ∧ ∀ entry ∈ recent, entry.isOther = true) ∧
      (Target m vm slot → ClosedFor m requester slot ∨ slot ∈ slots →
        Target (slots.foldl (fun m slot => m.disconnectLe vm requester slot) m) vm slot ∧
          ClosedFor (slots.foldl (fun m slot => m.disconnectLe vm requester slot) m)
            requester slot) := by
  induction slots generalizing m with
  | nil =>
    refine ⟨sane, ⟨[], rfl, fun _ member => absurd member List.not_mem_nil⟩, ?_⟩
    exact fun target either => ⟨target, either.resolve_right List.not_mem_nil⟩
  | cons first slots ih =>
    obtain ⟨saneFirst, ⟨early, sameEarly, otherEarly⟩, targetFirst⟩ :=
      disconnectLe_spec vm slot sane requester first
    obtain ⟨saneRest, ⟨late, sameLate, otherLate⟩, targetRest⟩ := ih saneFirst
    refine ⟨saneRest, ⟨late ++ early, ?_, fun entry member => ?_⟩, fun target either => ?_⟩
    · rw [List.foldl_cons, sameLate, sameEarly, List.append_assoc]
    · exact (List.mem_append.mp member).elim (otherLate entry) (otherEarly entry)
    · obtain ⟨kept, closed⟩ := targetFirst target
      refine targetRest kept ?_
      rcases either with before | member
      · exact Or.inl (closed (Or.inl before))
      · rcases List.mem_cons.mp member with same | member
        · exact Or.inl (closed (Or.inr same.symm))
        · exact Or.inr member

theorem disconnectLoop_idle (vm : Resolver)
    (idle : ∀ slot, ¬ (m.connections slot).ActiveBle) (requester : Task) (slots : List Slot) :
    slots.foldl (fun m slot => m.disconnectLe vm requester slot) m = m := by
  induction slots with
  | nil => rfl
  | cons first slots ih =>
    have skipped : ¬ ((m.connections first).isBle = true ∧
        (m.connections first).isActive = true) := idle first
    rw [List.foldl_cons, disconnectLe, if_neg skipped]
    exact ih

/-- There are no LE links, or the request closes one. -/
def ClosesOne (m : ConManager) (vm : Resolver) : Prop :=
  m.hasActiveBle = false ∨ ∃ slot, Target m vm slot

theorem requested_served (served : LeServed m) (sane : Sane m) (closes : ClosesOne m vm)
    (asked : m.disconnectAllLeConnectionsRequest vm requester = some next) : LeServed next := by
  rw [disconnectAllLeConnectionsRequest] at asked
  split at asked
  · contradiction
  · rename_i notRecorded
    have free : m.allLeDisconnectRequester = none := Option.not_isSome_iff_eq_none.mp notRecorded
    have recorded := served.toConfirmed.record requester free
    dsimp only at asked
    split at asked
    · rename_i some'
      obtain ⟨slot, target⟩ := closes.resolve_left fun none =>
        Bool.false_ne_true (none.symm.trans some')
      rw [← some.inj asked]
      have begun : Sane { m with log := .disconnectAllLe requester :: m.log } := sane.of_eq rfl
      obtain ⟨-, log, reaches⟩ := disconnectLoop_spec vm slot begun requester
        (List.finRange maxConnections)
      obtain ⟨target', closed⟩ := reaches target (Or.inr (List.mem_finRange slot))
      exact ⟨recorded.of_log closed.1 log, fun _ => ⟨slot, target'.1, closed.2⟩⟩
    · rename_i none
      have idle : ∀ slot, ¬ (m.connections slot).ActiveBle := fun slot active =>
        none (decide_eq_true ⟨slot, active⟩)
      have loop := disconnectLoop_idle
        (m := { m with log := .disconnectAllLe requester :: m.log }) vm idle requester
        (List.finRange maxConnections)
      rw [loop] at asked
      rw [← some.inj asked]
      refine ⟨(recorded.confirm rfl).of_log free ⟨[], rfl, fun _ member =>
        absurd member List.not_mem_nil⟩, fun recorded => absurd free recorded⟩

theorem Sane.disconnectAllLe (sane : Sane m)
    (asked : m.disconnectAllLeConnectionsRequest vm requester = some next) : Sane next := by
  rw [disconnectAllLeConnectionsRequest] at asked
  split at asked
  · contradiction
  · have begun : Sane { m with log := .disconnectAllLe requester :: m.log } := sane.of_eq rfl
    have loop := (disconnectLoop_spec vm 0 begun requester
      (List.finRange maxConnections)).1
    dsimp only at asked
    split at asked
    · exact some.inj asked ▸ loop
    · exact some.inj asked ▸ loop.of_eq rfl

end Requests

def Harmless (m : ConManager) : Event → Prop
  | .aclOpened tpaddr false vm => FailsHarmless m vm tpaddr
  | .aclClosed tpaddr _ vm => ClosesHarmless m vm tpaddr
  | .allAclsClosed => m.allLeDisconnectRequester = none
  | .disconnectAllLe _ vm => ClosesOne m vm
  | _ => True

instance (m : ConManager) (slot : Slot) : Decidable (ClosesOther m slot) :=
  inferInstanceAs (Decidable (∃ _, _))

instance (m : ConManager) (vm : Resolver) (slot : Slot) : Decidable (Target m vm slot) :=
  inferInstanceAs (Decidable (_ ∧ _))

instance (m : ConManager) (event : Event) : Decidable (Harmless m event) :=
  match event with
  | .aclOpened tpaddr false vm => inferInstanceAs (Decidable
      (∀ slot, m.findConnectionFromBdAddr vm tpaddr = some slot → _ ∨ _))
  | .aclClosed tpaddr _ vm => inferInstanceAs (Decidable
      (∀ slot, m.findConnectionFromBdAddr vm tpaddr = some slot → _ ∨ _ ∨ _))
  | .allAclsClosed => inferInstanceAs (Decidable (m.allLeDisconnectRequester = none))
  | .disconnectAllLe _ vm => inferInstanceAs (Decidable (_ ∨ ∃ slot, Target m vm slot))
  | .aclOpened _ true _ | .createAcl _ _ _ | .releaseAcl _ _ _ | .pauseCfm | .internalOpen _
  | .terminateAllAcls _ => inferInstanceAs (Decidable True)

section Runs

variable {m next : ConManager} {event : Event}

def Event.isRequest : Event → Bool
  | .disconnectAllLe _ _ => true
  | _ => false

theorem step_served_iff (served : LeServed m) (sane : Sane m) (other : event.isRequest = false)
    (steps : m.step event = some next) : (LeServed next ↔ Harmless m event) ∧ Sane next := by
  have kept : Keeps m next ∧ Sane next → (LeServed next ↔ True) ∧ Sane next := fun both =>
    ⟨iff_true_intro (both.1.served served), both.2⟩
  cases event with
  | createAcl user tpaddr vm => exact kept (createAclImpl_keeps sane steps)
  | releaseAcl user tpaddr vm =>
    rw [← some.inj steps] at kept ⊢
    exact kept ⟨.releaseAclImpl sane (some user), sane.releaseAclImpl (some user)⟩
  | aclOpened tpaddr success vm =>
    cases success with
    | true => exact kept (opened_keeps sane steps)
    | false => exact failed_served_iff served sane steps
  | aclClosed tpaddr handsetTimeout vm => exact closed_served_iff served sane steps
  | pauseCfm => exact kept (pauseCfm_keeps sane steps)
  | internalOpen vm =>
    refine kept ?_
    rw [step.eq_def] at steps
    dsimp only at steps
    split at steps
    · contradiction
    · rename_i tpaddr queue _
      have taken : Keeps m { m with queue := queue } := .of_eq rfl rfl rfl
      have opening := handleInternalAclOpenReq_keeps vm tpaddr
        (show Sane { m with queue := queue } from sane.of_eq rfl)
      rw [← some.inj steps]
      exact ⟨taken.trans opening.1, opening.2⟩
  | terminateAllAcls requester =>
    refine kept ?_
    rw [step, terminateAllAcls] at steps
    split at steps
    · contradiction
    · rw [← some.inj steps]
      exact ⟨.of_eq rfl rfl rfl, sane.of_eq rfl⟩
  | allAclsClosed =>
    rw [← some.inj steps]
    exact allClosed_served_iff served
  | disconnectAllLe requester vm => exact absurd other.symm Bool.false_ne_true

/-- What holds in all states of such runs. -/
structure LeKept (m : ConManager) : Prop where
  served : LeServed m
  sane : Sane m

theorem LeKept.step (kept : LeKept m) (harmless : Harmless m event)
    (steps : m.step event = some next) : LeKept next := by
  obtain ⟨served, sane⟩ := kept
  cases request : event.isRequest with
  | false =>
    obtain ⟨iff, kept⟩ := step_served_iff served sane request steps
    exact ⟨iff.mpr harmless, kept⟩
  | true =>
    cases event with
    | disconnectAllLe requester vm =>
      exact ⟨requested_served served sane harmless steps, sane.disconnectAllLe steps⟩
    | createAcl user tpaddr vm => exact absurd request Bool.false_ne_true
    | releaseAcl user tpaddr vm => exact absurd request Bool.false_ne_true
    | aclOpened tpaddr success vm => exact absurd request Bool.false_ne_true
    | aclClosed tpaddr handsetTimeout vm => exact absurd request Bool.false_ne_true
    | pauseCfm => exact absurd request Bool.false_ne_true
    | internalOpen vm => exact absurd request Bool.false_ne_true
    | terminateAllAcls requester => exact absurd request Bool.false_ne_true
    | allAclsClosed => exact absurd request Bool.false_ne_true

theorem init_served : LeServed init :=
  ⟨⟨fun _ => trivial, fun _ => rfl⟩, fun recorded => absurd rfl recorded⟩

theorem init_sane : Sane init :=
  ⟨fun _ ble => absurd ble Bool.false_ne_true, fun _ => noConfusion⟩

/-- In a run without harm to a request, each is confirmed once at most, and as long as it is
recorded an LE link is being closed.  The next event keeps it so just when it does no harm. -/
theorem run_disconnections_served_iff {events : List Event}
    (runs : runAllowed step Harmless events init = some m) :
    LeServed m ∧ ∀ event next, event.isRequest = false → m.step event = some next →
      (LeServed next ↔ Harmless m event) := by
  have kept : LeKept m := (Reached.run .start runs).invariant ⟨init_served, init_sane⟩
    fun _ _ _ harmless steps kept => kept.step harmless steps
  exact ⟨kept.served, fun event next other steps =>
    (step_served_iff kept.served kept.sane other steps).1⟩

end Runs

def openedFor (users : List Task) (tpaddr : TpBdaddr) : List Event :=
  users.map (fun user => .createAcl user tpaddr unresolved) ++
    [.pauseCfm, .internalOpen unresolved, .aclOpened tpaddr true unresolved]

/-- The address of an LE device. -/
def earbud : TpBdaddr := ⟨.bleAcl, ⟨.typedPublic, 8⟩⟩

def disconnected : List Event :=
  openedFor [1] earbud ++ [.disconnectAllLe 9 unresolved, .aclClosed earbud false unresolved]

theorem disconnected_served :
    ∃ m, runAllowed step Harmless disconnected init = some m ∧
      (LeServed m ∧ ∀ event next, event.isRequest = false → m.step event = some next →
        (LeServed next ↔ Harmless m event)) := by
  have found : (runAllowed step Harmless disconnected init).isSome = true := by decide +kernel
  obtain ⟨m, runs⟩ := Option.isSome_iff_exists.mp found
  exact ⟨m, runs, run_disconnections_served_iff runs⟩

/-- Two users share the link. -/
def sharedLe : List Event := openedFor [1, 2] earbud ++ [.disconnectAllLe 9 unresolved]

/-- The link waits for scanning to pause. -/
def waitingLe : List Event := [.createAcl 1 earbud unresolved, .disconnectAllLe 9 unresolved]

def forcedLe : List Event :=
  openedFor [1] earbud ++ [.disconnectAllLe 9 unresolved, .terminateAllAcls 5, .allAclsClosed]

def failedLe : List Event :=
  [.createAcl 1 earbud unresolved, .pauseCfm, .internalOpen unresolved,
    .disconnectAllLe 9 unresolved, .aclOpened earbud false unresolved]

/-- The request is recorded, and no link is being closed that would confirm it. -/
theorem not_served :
    (∃ m, sharedLe.foldlM step init = some m ∧ m.allLeDisconnectRequester = some 9 ∧
      m.log.head? = some (.released 0 none) ∧ ¬ LeServed m) ∧
    (∃ m, waitingLe.foldlM step init = some m ∧ m.allLeDisconnectRequester = some 9 ∧
      m.hasActiveBle = false ∧ ¬ LeServed m) ∧
    (∃ m, forcedLe.foldlM step init = some m ∧ m.allLeDisconnectRequester = some 9 ∧
      m.hasActiveBle = false ∧ ¬ LeServed m) ∧
    ∃ m, failedLe.foldlM step init = some m ∧ m.allLeDisconnectRequester = some 9 ∧
      m.hasActiveBle = false ∧ ¬ LeServed m := by
  refine ⟨⟨_, rfl, rfl, rfl, fun served => ?_⟩, ⟨_, rfl, rfl, rfl, fun served => ?_⟩,
    ⟨_, rfl, rfl, rfl, fun served => ?_⟩, ⟨_, rfl, rfl, rfl, fun served => ?_⟩⟩
  all_goals exact absurd (served.closing (some_ne_none 9)) (by decide +kernel)

end HeadsetAdk.ConManager
