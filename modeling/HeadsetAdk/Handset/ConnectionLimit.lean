import HeadsetAdk.Handset.ServedRuns
import HeadsetAdk.Handset.ScanChecks

/-! # Page scanning and the connection limit -/

namespace HeadsetAdk.Handset

/-- Page scanning is off after the machine has done this about it. -/
def Connectable.EndsOff (connectable : Connectable) (context : Context) : Rescan → Prop
  | .leave => connectable.enabledBredr = false
  | .enable => connectable.enabledBredr = false ∧
      (connectable.allowBredr = true → context.maxConnections ≤ context.otherConnections)
  | .disable => connectable.enabledBredr = true →
      context.maxConnections ≤ context.otherConnections + 1

instance (connectable : Connectable) (context : Context) (rescan : Rescan) :
    Decidable (connectable.EndsOff context rescan) :=
  match rescan with
  | .leave => inferInstanceAs (Decidable (connectable.enabledBredr = false))
  | .enable => inferInstanceAs (Decidable (_ ∧ (_ → context.maxConnections ≤ _)))
  | .disable => inferInstanceAs (Decidable (_ → context.maxConnections ≤ _))

theorem Connectable.rescan_enabled_iff (connectable : Connectable) (context : Context)
    (rescan : Rescan) :
    (connectable.rescan context rescan).enabledBredr = false ↔
      connectable.EndsOff context rescan := by
  obtain ⟨allow, enabled⟩ := connectable
  cases rescan with
  | leave => exact Iff.rfl
  | enable =>
    rw [Connectable.rescan]
    split
    · next reached => exact ⟨fun off => ⟨off, fun _ => reached⟩, And.left⟩
    · next notReached =>
      cases enabled
      · cases allow
        · exact iff_of_true rfl ⟨rfl, fun allowed => absurd allowed Bool.false_ne_true⟩
        · exact iff_of_false (fun enabled => Bool.false_ne_true enabled.symm)
            fun off => notReached (off.2 rfl)
      · exact iff_of_false (fun enabled => Bool.false_ne_true enabled.symm)
          fun off => absurd off.1.symm Bool.false_ne_true
  | disable =>
    rw [Connectable.rescan]
    split
    · next reached =>
      cases enabled
      · exact iff_of_true rfl fun _ => reached
      · exact iff_of_true rfl fun _ => reached
    · next notReached =>
      cases enabled
      · exact iff_of_true rfl fun enabled => absurd enabled Bool.false_ne_true
      · exact iff_of_false (fun enabled => Bool.false_ne_true enabled.symm)
          fun off => notReached (off rfl)

namespace Service

variable {service next : Service} {slot : Nat} {world : World} {input : Input}
  {event : Event} {device leAddr : Option Bdaddr}

section Specification

variable (service : Service)

def aclsUp : Nat := service.machines.countP HandsetSm.aclReported

/-- Page scanning is enabled only while another handset may connect. -/
def LimitKept : Prop :=
  service.connectable.enabledBredr = true → service.aclsUp < service.maxConnections

instance : Decidable service.LimitKept :=
  inferInstanceAs (Decidable (_ → service.aclsUp < service.maxConnections))

def Fits (slot : Nat) (world : World) (input : Input) : Prop :=
  ∀ sm ∈ service.machines[slot]?,
    service.maxConnections ≤ (service.others slot).countP HandsetSm.aclReported +
        (if sm.aclUp world input then 1 else 0) →
      service.connectable.EndsOff (service.contextOf slot world)
        (sm.rescan (service.contextOf slot world) input)

instance (slot : Nat) (world : World) (input : Input) :
    Decidable (service.Fits slot world input) :=
  inferInstanceAs (Decidable (∀ sm ∈ service.machines[slot]?, _ → Connectable.EndsOff _ _ _))

def FitsNew : Event → Prop
  | .tpConnectInd none device world => service.maxBredrAclConnectionsReached = false →
      ∀ slot ∈ service.freeSlot,
        (service.createSm slot (some device) none).Fits slot world (.tpConnectInd device)
  | .connectedProfileInd none device profile world => ∀ slot ∈ service.freeSlot,
      (service.createSm slot (some device) none).Fits slot world
        (.connectedProfileInd device profile)
  | .connectableRequest => service.maxConnections ≤ service.aclsUp →
      service.maxConnections ≤ service.bredrAclConnectionCount
  | .configure maxConnections => service.connectable.enabledBredr = true →
      service.aclsUp < maxConnections
  | _ => True

instance (event : Event) : Decidable (service.FitsNew event) := by
  cases event
  case tpConnectInd found device world =>
    cases found
    case none =>
      exact inferInstanceAs (Decidable (_ = false → ∀ slot ∈ service.freeSlot, Fits _ _ _ _))
    case some => exact isTrue trivial
  case connectedProfileInd found device profile world =>
    cases found
    case none => exact inferInstanceAs (Decidable (∀ slot ∈ service.freeSlot, Fits _ _ _ _))
    case some => exact isTrue trivial
  case connectableRequest =>
    exact inferInstanceAs (Decidable (service.maxConnections ≤ _ → service.maxConnections ≤ _))
  case configure => exact inferInstanceAs (Decidable (_ = true → service.aclsUp < _))
  all_goals exact isTrue trivial

def WithinLimit (event : Event) : Prop :=
  (∀ handled ∈ event.handled, service.Fits handled.1 handled.2.1 handled.2.2) ∧
    service.FitsNew event

instance (event : Event) : Decidable (service.WithinLimit event) :=
  inferInstanceAs (Decidable ((∀ handled ∈ event.handled, Fits _ _ _ _) ∧ FitsNew _ _))

end Specification

variable {sm : HandsetSm}

section

variable (found : service.machines[slot]? = some sm) (counted : HandsetSm → Bool)

include found counted

theorem countP_machines :
    service.machines.countP counted =
      (service.others slot).countP counted + if counted sm then 1 else 0 := by
  obtain ⟨bound, rfl⟩ := List.getElem?_eq_some_iff.mp found
  conv => lhs; rw [← List.take_append_drop slot service.machines]
  rw [List.drop_eq_getElem_cons bound, others, List.countP_append, List.countP_append,
    List.countP_cons, Nat.add_assoc]

theorem countP_set {sm' : HandsetSm} :
    (service.machines.set slot sm').countP counted =
      (service.others slot).countP counted + if counted sm' then 1 else 0 := by
  obtain ⟨bound, -⟩ := List.getElem?_eq_some_iff.mp found
  rw [List.set_eq_take_append_cons_drop, if_pos bound, others, List.countP_append,
    List.countP_append, List.countP_cons, Nat.add_assoc]

end

theorem limitKept_iff : service.LimitKept ↔
    (service.maxConnections ≤ service.aclsUp → service.connectable.enabledBredr = false) := by
  rw [LimitKept, ← Nat.not_lt, ← Bool.not_eq_true]
  exact ⟨fun kept full enabled => full (kept enabled),
    fun off enabled => by_contra fun full => off full enabled⟩

theorem aclUp_isConnected (up : sm.aclUp world input = true) :
    world.isConnected = true ∧ (input.bringsAcl = true ∨ sm.handsetDevice.isSome = true) := by
  rw [HandsetSm.aclUp, Bool.and_eq_true, Bool.and_eq_true, Bool.or_eq_true, Bool.and_eq_true] at up
  exact ⟨up.1.1, up.2.imp_right And.left⟩

theorem rescan_noted (context : Context) (sm : HandsetSm) (reported : Bool) (input : Input) :
    HandsetSm.rescan context { sm with aclReported := reported } input =
      sm.rescan context input := by
  cases input
  case connectedProfileInd device profile =>
    have same : HandsetSm.connectedRescan context
        (({ sm with aclReported := reported } : HandsetSm).setDeviceIfNone (some device)) =
          (sm.setDeviceIfNone (some device)).connectedRescan context := by
      rw [HandsetSm.setDeviceIfNone, HandsetSm.setDeviceIfNone]
      dsimp only
      split
      · rfl
      · rfl
    rw [HandsetSm.rescan.eq_def, HandsetSm.rescan.eq_def]
    dsimp only
    rw [same]
  case internal message => cases message <;> rfl
  all_goals rfl

theorem handleAt_limitKept_iff (done : service.handleAt slot world input = some next) :
    next.LimitKept ↔ service.Fits slot world input := by
  obtain ⟨sm, handling, found, used, handled, rfl⟩ := handleAt_eq_some done
  have up : sm.aclUp world input = true → world.isConnected = true ∧
      (input.bringsAcl = true ∨ sm.handsetDevice.isSome = true) := aclUp_isConnected
  obtain ⟨connectable, reported⟩ := Handling.handle_rescan up handled
  rw [limitKept_iff, Fits, found]
  dsimp only [aclsUp]
  rw [countP_set found, reported, connectable, Connectable.rescan_enabled_iff, rescan_noted]
  exact ⟨fun off sm' member => Option.some.inj member ▸ off, fun fits => fits sm rfl⟩

theorem createFor_limitKept_iff (done : service.createFor device leAddr world input = some next) :
    next.LimitKept ↔
      ∀ slot ∈ service.freeSlot, (service.createSm slot device leAddr).Fits slot world input := by
  obtain ⟨slot, free, handled⟩ := Option.bind_eq_some_iff.mp done
  rw [handleAt_limitKept_iff handled, free]
  exact ⟨fun fits slot' same => Option.some.inj same ▸ fits, fun fits => fits slot rfl⟩

theorem createSm_fits (kept : service.LimitKept) (free : service.freeSlot = some slot)
    (quiet : ∀ context sm, sm.state = .disconnected → HandsetSm.rescan context sm input = .leave)
    (down : ∀ sm : HandsetSm, HandsetSm.aclUp world (sm.created device leAddr) input = false) :
    (service.createSm slot device leAddr).Fits slot world input := by
  obtain ⟨bound, -, -⟩ := List.findIdx?_eq_some_iff_getElem.mp free
  intro sm created full
  rw [createSm, List.getElem?_modify_eq] at created
  obtain ⟨old, found, rfl⟩ := Option.map_eq_some_iff.mp created
  have before : (service.createSm slot device leAddr).machines.take slot =
      service.machines.take slot := by
    rw [createSm]
    dsimp only
    rw [List.modify_eq_take_cons_drop bound,
      List.take_left' (List.length_take_of_le (Nat.le_of_lt bound))]
  have behind : (service.createSm slot device leAddr).machines.drop (slot + 1) =
      service.machines.drop (slot + 1) :=
    List.drop_modify_of_lt _ slot (slot + 1) service.machines (Nat.lt_succ_self slot)
  rw [others, before, behind, down old] at full
  have fewer : (service.others slot).countP HandsetSm.aclReported ≤ service.aclsUp := by
    rw [aclsUp, countP_machines found]
    exact Nat.le_add_right _ _
  have off := limitKept_iff.mp kept (Nat.le_trans full fewer)
  rw [quiet _ _ rfl]
  exact off

theorem step_limitKept_iff (kept : service.LimitKept)
    (steps : service.step event = some next) : next.LimitKept ↔ service.WithinLimit event := by
  have byMachine {slot : Nat} {world : World} {input : Input}
      (handled : event.handled = some (slot, world, input)) (new : service.FitsNew event)
      (done : service.handleAt slot world input = some next) :
      next.LimitKept ↔ service.WithinLimit event := by
    rw [handleAt_limitKept_iff done, WithinLimit, handled]
    exact ⟨fun fits => ⟨fun handled same => Option.some.inj same ▸ fits, new⟩,
      fun within => within.1 _ rfl⟩
  have byNone (handled : event.handled = none) (same : next.LimitKept ↔ service.FitsNew event) :
      next.LimitKept ↔ service.WithinLimit event := by
    rw [same, WithinLimit, handled]
    exact ⟨fun fits => ⟨fun _ member => absurd member nofun, fits⟩, And.right⟩
  cases event with
  | connectReq found task addr device profiles world =>
    cases found with
    | some slot => exact byMachine rfl trivial steps
    | none =>
      refine byNone rfl (iff_of_true ?_ trivial)
      replace steps : (if _ then _ else _) = some next := steps
      split at steps
      · refine (createFor_limitKept_iff steps).mpr fun slot free =>
          createSm_fits kept free (fun _ _ _ => rfl) fun sm => ?_
        show (world.isConnected && true && (false || (device.isSome && false))) = false
        rw [Bool.and_false, Bool.or_false, Bool.and_false]
      · exact Option.some.inj steps ▸ kept
  | disconnectReq found task addr exclude world =>
    cases found with
    | some slot => exact byMachine rfl trivial steps
    | none => exact byNone rfl (iff_of_true (Option.some.inj steps ▸ kept) trivial)
  | stopConnect found task addr world =>
    cases found with
    | some slot => exact byMachine rfl trivial steps
    | none => exact byNone rfl (iff_of_true (Option.some.inj steps ▸ kept) trivial)
  | tpConnectInd found device world =>
    cases found with
    | some slot => exact byMachine rfl trivial steps
    | none =>
      refine byNone rfl ?_
      replace steps : (if _ then _ else _) = some next := steps
      split at steps
      · next free =>
        rw [createFor_limitKept_iff steps]
        exact ⟨fun fits _ => fits, fun fits => fits free.1⟩
      · next full =>
        refine iff_of_true (Option.some.inj steps ▸ kept) fun room slot free => ?_
        exact absurd ⟨room, Option.isSome_of_mem free⟩ full
  | connectedProfileInd found device profile world =>
    cases found with
    | some slot => exact byMachine rfl trivial steps
    | none => exact byNone rfl (createFor_limitKept_iff steps)
  | bleTpConnectInd found device addr world =>
    cases found with
    | some slot => exact byMachine rfl trivial steps
    | none =>
      refine byNone rfl (iff_of_true ?_ trivial)
      refine (createFor_limitKept_iff steps).mpr fun slot free =>
        createSm_fits kept free (fun _ _ _ => rfl) fun sm => ?_
      show (world.isConnected && true && (false || (false && false))) = false
      exact Bool.and_false _
  | toMachine slot world input => exact byMachine rfl trivial steps
  | connectableRequest =>
    cases steps
    refine byNone rfl ?_
    rw [limitKept_iff]
    refine forall_congr' fun full => ?_
    have off := limitKept_iff.mp kept full
    rw [connectableRequest]
    by_cases reached : service.maxBredrAclConnectionsReached = true
    · rw [if_pos reached]
      exact iff_of_true off (of_decide_eq_true reached)
    · rw [if_neg reached]
      refine iff_of_false (fun ends => ?_) fun counts => reached (decide_eq_true counts)
      rw [Connectable.enableBredr, if_pos rfl, off] at ends
      exact Bool.false_ne_true ends.symm
  | cancelConnectableRequest =>
    cases steps
    refine byNone rfl (iff_of_true (fun enabled => ?_) trivial)
    refine absurd enabled (Bool.eq_false_iff.mp ?_)
    rw [cancelConnectableRequest]
    dsimp only
    rw [Connectable.enableBredr, if_neg Bool.false_ne_true]
    split
    · rfl
    · next off => exact Bool.eq_false_iff.mpr off
  | configure maxConnections =>
    cases steps
    exact byNone rfl Iff.rfl

variable {count maxConnections : Nat} {events : List Event}

/-- The handset with the address 7 is connected, and not by the headset. -/
def inRange : World :=
  { outOfRange with
    isConnected := true
    isAclLocal := false }

/-- Page scanning is on, and the handset connects. -/
def connected : List Event := [.connectableRequest, .tpConnectInd none 7 inRange]

/-- A client stops the connection of the profiles, and page scanning is asked for again. -/
def stopping : List Event :=
  connected ++ [Event.stopConnect (some 0) 2 7 inRange,
    Event.toMachine 0 inRange (.internal (.connectStopReq (some 7))), Event.connectableRequest]

def whilePaging : List Event :=
  [.connectReq none 1 7 (some 7) 1 outOfRange, .connectableRequest,
    .toMachine 0 outOfRange (.internal (.connectReq (some 7) 1)),
    .tpConnectInd (some 0) 7 inRange]

end Service

end HeadsetAdk.Handset
