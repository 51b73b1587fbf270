import HeadsetAdk.Gaia.TransportStates

/-! # Confirmations of connection requests -/

namespace HeadsetAdk.Gaia

def TransportEvent.asksConnect : TransportEvent → Bool
  | .connectReq _ _ => true
  | _ => false

def TransportEvent.asksDisconnect (transport : Nat) : TransportEvent → Bool
  | .disconnectReq asked => decide (asked = transport)
  | _ => false

/-- `GAIA_CONNECT_CFM` -/
def Effect.confirmsConnect : Effect → Bool
  | .gaiaConnectCfm _ _ _ => true
  | _ => false

/-- `GAIA_DISCONNECT_CFM` of this transport. -/
def Effect.confirmsDisconnect (transport : Nat) : Effect → Bool
  | .gaiaDisconnectCfm confirmed _ _ => decide (confirmed = transport)
  | _ => false

namespace Transports

variable (transports : Transports)

def connectRequests : Nat := transports.events.countP TransportEvent.asksConnect

def connectCfms : Nat := transports.effects.countP Effect.confirmsConnect

def disconnectRequests (transport : Nat) : Nat :=
  transports.events.countP (TransportEvent.asksDisconnect transport)

def disconnectCfms (transport : Nat) : Nat :=
  transports.effects.countP (Effect.confirmsDisconnect transport)

def waiting (transport : Nat) : Nat :=
  transports.disconnectRequests transport - transports.disconnectCfms transport

/-- Each request is confirmed once.  Only a transport that connects still owes the
confirmation of a connect request, and only one that disconnects that of a disconnect
request: it is not connected again, and has not indicated the disconnection instead. -/
structure Answered : Prop where
  connects : transports.connectCfms +
      transports.list.countP (fun t => decide (t.state = .connecting)) =
    transports.connectRequests
  confirmed : ∀ transport,
    transports.disconnectCfms transport ≤ transports.disconnectRequests transport
  disconnects : ∀ (transport : Nat) t, transports.list[transport]? = some t →
    t.state ≠ .disconnecting →
    transports.disconnectCfms transport = transports.disconnectRequests transport

end Transports

def DisconnectReport.answers : DisconnectReport → Nat
  | .later => 0
  | .confirmed _ => 1
  | .indicated => 1

/-- No transport accepts a connect request.  While a transport disconnects, with a request
that is not confirmed, it reports neither an error nor a connection that failed, and no
new connection that it does not end at once; without such a request it reports nothing of
a disconnection. -/
def Transports.Orderly (transports : Transports) : TransportEvent → Prop
  | .connectReq type _ => ∀ t ∈ transports.list, ¬ t.Accepts type
  | .connectInd transport success _ reported =>
      ∀ t ∈ transports.list[transport]?, t.state = .disconnecting →
        transports.waiting transport = if success then reported.answers else 0
  | .disconnectReq _ => True
  | .disconnectCfm transport _ => transports.waiting transport ≠ 0
  | .disconnectInd transport =>
      ∀ t ∈ transports.list[transport]?, t.state = .disconnecting →
        transports.waiting transport ≠ 0
  | .errorInd transport => transports.waiting transport = 0

instance (transports : Transports) (event : TransportEvent) :
    Decidable (transports.Orderly event) :=
  match event with
  | .connectReq type _ =>
      inferInstanceAs (Decidable (∀ t ∈ transports.list, ¬ t.Accepts type))
  | .connectInd transport success _ reported =>
      inferInstanceAs (Decidable (∀ t ∈ transports.list[transport]?, t.state = .disconnecting →
          transports.waiting transport = if success then reported.answers else 0))
  | .disconnectReq _ => isTrue trivial
  | .disconnectCfm transport _ =>
      inferInstanceAs (Decidable (transports.waiting transport ≠ 0))
  | .disconnectInd transport =>
      inferInstanceAs (Decidable (∀ t ∈ transports.list[transport]?,
        t.state = .disconnecting → transports.waiting transport ≠ 0))
  | .errorInd transport => inferInstanceAs (Decidable (transports.waiting transport = 0))

section Changes

def Effect.IsOf (transport : Nat) : Effect → Prop
  | .gaiaConnectInd owner _ _ => owner = transport
  | .gaiaDisconnectCfm owner _ _ => owner = transport
  | .gaiaDisconnectInd owner _ => owner = transport
  | .disconnectReq owner => owner = transport
  | .error owner => owner = transport
  | .gaiaConnectCfm _ _ _ => False
  | .connectReq _ _ => False

variable {transport : Nat} {effects : List Effect}

theorem confirmsConnect_eq_zero (own : ∀ effect ∈ effects, effect.IsOf transport) :
    effects.countP Effect.confirmsConnect = 0 := by
  rw [List.countP_eq_zero]
  intro effect member
  have here := own effect member
  cases effect with
  | gaiaConnectCfm => exact here.elim
  | _ => exact Bool.false_ne_true

theorem confirmsDisconnect_eq_zero {other : Nat} (own : ∀ effect ∈ effects, effect.IsOf transport)
    (different : other ≠ transport) : effects.countP (Effect.confirmsDisconnect other) = 0 := by
  rw [List.countP_eq_zero]
  intro effect member
  have here := own effect member
  cases effect with
  | gaiaDisconnectCfm owner success tpBdAddr =>
    exact fun confirms => different (of_decide_eq_true confirms ▸ here)
  | _ => exact Bool.false_ne_true

namespace Transports

variable {transports : Transports} {t : Transport} {transport : Nat}

structure Sound (transports : Transports) : Prop where
  answered : transports.Answered
  single : ∀ transport, transports.waiting transport ≤ 1
  never : ∀ t ∈ transports.list, t.state ≠ .connecting

theorem connecting_eq_zero (never : ∀ t ∈ transports.list, t.state ≠ .connecting) :
    transports.list.countP (fun t => decide (t.state = .connecting)) = 0 := by
  rw [List.countP_eq_zero]
  intro t member
  exact fun connecting => never t member (of_decide_eq_true connecting)

structure Changed (transports : Transports) (event : TransportEvent) (transport : Nat)
    (after : Transport × List Effect) : Prop where
  there : transport < transports.list.length
  request : event.asksConnect = false
  elsewhere : ∀ other ≠ transport, event.asksDisconnect other = false
  own : ∀ effect ∈ after.2, effect.IsOf transport
  state : after.1.state ≠ .connecting

namespace Changed

variable {event : TransportEvent} {after : Transport × List Effect}

section

variable (changed : Changed transports event transport after)

include changed

theorem never (never : ∀ t ∈ transports.list, t.state ≠ .connecting) :
    ∀ t ∈ (transports.change event transport after).list, t.state ≠ .connecting := by
  intro t member
  rcases List.mem_or_eq_of_mem_set member with old | new
  · exact never t old
  · exact new ▸ changed.state

theorem connectRequests_eq :
    (transports.change event transport after).connectRequests = transports.connectRequests :=
  List.countP_cons_of_neg (by rw [changed.request]; exact Bool.false_ne_true)

theorem connectCfms_eq :
    (transports.change event transport after).connectCfms = transports.connectCfms := by
  rw [connectCfms, change, List.countP_append, List.countP_reverse,
    confirmsConnect_eq_zero changed.own, Nat.zero_add]
  rfl

theorem disconnectRequests_eq {other : Nat} (different : other ≠ transport) :
    (transports.change event transport after).disconnectRequests other =
      transports.disconnectRequests other :=
  List.countP_cons_of_neg (by
    rw [changed.elsewhere other different]; exact Bool.false_ne_true)

theorem disconnectCfms_eq {other : Nat} (different : other ≠ transport) :
    (transports.change event transport after).disconnectCfms other =
      transports.disconnectCfms other := by
  rw [disconnectCfms, change, List.countP_append, List.countP_reverse,
    confirmsDisconnect_eq_zero changed.own different, Nat.zero_add]
  rfl

theorem answered_iff (sound : transports.Sound) :
    (transports.change event transport after).Answered ↔
      (transports.change event transport after).disconnectCfms transport ≤
          (transports.change event transport after).disconnectRequests transport ∧
        (after.1.state ≠ .disconnecting →
          (transports.change event transport after).disconnectCfms transport =
            (transports.change event transport after).disconnectRequests transport) := by
  constructor
  · intro answered
    exact ⟨answered.confirmed transport, answered.disconnects transport after.1
      (List.getElem?_set_self changed.there)⟩
  · rintro ⟨confirmed, disconnects⟩
    constructor
    · rw [changed.connectCfms_eq, changed.connectRequests_eq,
        connecting_eq_zero (changed.never sound.never), ← sound.answered.connects,
        connecting_eq_zero sound.never]
    · intro other
      by_cases same : other = transport
      · exact same ▸ confirmed
      · rw [changed.disconnectCfms_eq same, changed.disconnectRequests_eq same]
        exact sound.answered.confirmed other
    · intro other t found idle
      by_cases same : other = transport
      · subst same
        rw [change, List.getElem?_set_self changed.there, Option.some.injEq] at found
        exact disconnects (found ▸ idle)
      · rw [change, List.getElem?_set_ne (Ne.symm same)] at found
        rw [changed.disconnectCfms_eq same, changed.disconnectRequests_eq same]
        exact sound.answered.disconnects other t found idle

end

end Changed

theorem change_disconnectCfms (transports : Transports) (event : TransportEvent)
    (transport : Nat) (after : Transport × List Effect) (counted : Nat) :
    (transports.change event transport after).disconnectCfms counted =
      after.2.countP (Effect.confirmsDisconnect counted) +
        transports.disconnectCfms counted := by
  rw [disconnectCfms, change, List.countP_append, List.countP_reverse]
  rfl

theorem change_disconnectRequests (transports : Transports) (event : TransportEvent)
    (transport : Nat) (after : Transport × List Effect) (counted : Nat) :
    (transports.change event transport after).disconnectRequests counted =
      transports.disconnectRequests counted +
        if event.asksDisconnect counted then 1 else 0 := by
  rw [disconnectRequests, change, List.countP_cons]
  rfl

end Transports

end Changes

namespace Transport

variable {t : Transport} (self : Nat)

theorem disconnectCfm_own (success : Bool) :
    ∀ effect ∈ (t.disconnectCfm self success).2, effect.IsOf self := by
  intro effect member
  rw [List.mem_singleton.mp member]
  rfl

theorem disconnectCfm_state (success : Bool) (idle : t.state ≠ .connecting) :
    (t.disconnectCfm self success).1.state ≠ .connecting := by
  rw [disconnectCfm]
  cases success with
  | true => exact nofun
  | false => exact idle

theorem disconnectCfm_count (success : Bool) :
    (t.disconnectCfm self success).2.countP (Effect.confirmsDisconnect self) = 1 := by
  simp [disconnectCfm, Effect.confirmsDisconnect]

theorem disconnectInd_own : ∀ effect ∈ (t.disconnectInd self).2, effect.IsOf self := by
  intro effect member
  rw [List.mem_singleton.mp member]
  split <;> rfl

theorem disconnectInd_count :
    (t.disconnectInd self).2.countP (Effect.confirmsDisconnect self) =
      if t.state = .disconnecting then 1 else 0 := by
  rw [disconnectInd]
  split <;> simp [Effect.confirmsDisconnect]

theorem report_own (reported : DisconnectReport) :
    ∀ effect ∈ (t.report self reported).2, effect.IsOf self := by
  cases reported with
  | later => exact fun effect member => absurd member List.not_mem_nil
  | confirmed success => exact disconnectCfm_own self success
  | indicated => exact disconnectInd_own self

theorem report_count (reported : DisconnectReport) (disconnects : t.state = .disconnecting) :
    (t.report self reported).2.countP (Effect.confirmsDisconnect self) = reported.answers := by
  cases reported with
  | later => rfl
  | confirmed success => exact disconnectCfm_count self success
  | indicated => exact (disconnectInd_count self).trans (if_pos disconnects)

theorem disconnectReq_own : ∀ effect ∈ (t.disconnectReq self).2, effect.IsOf self := by
  intro effect member
  rw [disconnectReq] at member
  split at member
  · rw [List.mem_singleton.mp member]
    rfl
  · split at member
    · exact absurd member List.not_mem_nil
    · rw [List.mem_singleton.mp member]
      rfl

theorem disconnectReq_cases (idle : t.state ≠ .connecting) :
    (t.state = .connected ∧ t.disconnectReq self =
        ({ t with state := .disconnecting }, [.disconnectReq self])) ∨
      t.disconnectReq self = (t, [.gaiaDisconnectCfm self false t.tpBdAddr]) := by
  rw [disconnectReq]
  split
  · exact .inl ⟨(by assumption : _ ∧ t.state = .connected).2, rfl⟩
  · rw [if_neg fun both => idle both.2]
    exact .inr rfl

section

variable {success : Bool} {tpBdAddr : Option TpBdAddr} {reported : DisconnectReport}
  {after : Transport × List Effect} (idle : t.state ≠ .connecting)

include idle

theorem connectIndEffects_cases
    (indicates : t.connectIndEffects self success tpBdAddr reported = some after) :
    (∀ effect ∈ after.2, effect.IsOf self) ∧ after.2.countP (Effect.confirmsDisconnect self) =
        if success = true ∧ t.state = .disconnecting then reported.answers else 0 := by
  rw [connectIndEffects, if_neg idle] at indicates
  split at indicates
  · next both =>
      split at indicates
      · cases indicates
        constructor
        · intro effect member
          rcases List.mem_cons.mp member with call | reports
          · rw [call]
            rfl
          · exact report_own self reported effect reports
        · rw [if_pos both]
          exact (List.countP_cons_of_neg Bool.false_ne_true).trans
            (report_count self reported both.2)
      · contradiction
  · next other =>
      cases indicates
      constructor
      · intro effect member
        rw [List.mem_singleton.mp member]
        rfl
      · rw [if_neg other]
        rfl

theorem connectInd_cases (indicates : t.connectInd self success tpBdAddr reported = some after) :
    after.1.state = (if success then .connected else .started) ∧
      (∀ effect ∈ after.2, effect.IsOf self) ∧
      after.2.countP (Effect.confirmsDisconnect self) =
        if success = true ∧ t.state = .disconnecting then reported.answers else 0 := by
  obtain ⟨before, effects, rfl⟩ := Option.map_eq_some_iff.mp indicates
  obtain ⟨own, counted⟩ := connectIndEffects_cases self
    (t := { t with tpBdAddr := if success then tpBdAddr else none }) idle effects
  exact ⟨rfl, own, counted⟩

end

end Transport

namespace Transports

variable {transports next : Transports} {event : TransportEvent} {transport : Nat}
  {t : Transport} {after : Transport × List Effect}

section

variable (sound : transports.Sound) (found : transports.list[transport]? = some t)

include sound found

theorem Sound.atRest (idle : t.state ≠ .disconnecting) : transports.waiting transport = 0 := by
  rw [waiting, sound.answered.disconnects transport t found idle, Nat.sub_self]

theorem Sound.idle : t.state ≠ .connecting :=
  sound.never t (List.mem_of_getElem? found)

end

structure Stepped (transports : Transports) (event : TransportEvent) (transport : Nat)
    (after : Transport × List Effect) : Prop where
  changed : Changed transports event transport after
  orderly : transports.Orderly event ↔
    (transports.change event transport after).disconnectCfms transport ≤
        (transports.change event transport after).disconnectRequests transport ∧
      (after.1.state ≠ .disconnecting →
        (transports.change event transport after).disconnectCfms transport =
          (transports.change event transport after).disconnectRequests transport)
  single : (transports.change event transport after).waiting transport ≤ 1

section

variable (sound : transports.Sound)

include sound

theorem stepped_disconnectReq (found : transports.list[transport]? = some t) :
    Stepped transports (.disconnectReq transport) transport (t.disconnectReq transport) := by
  have confirmed := sound.answered.confirmed transport
  have single := sound.single transport
  have asked : (TransportEvent.disconnectReq transport).asksDisconnect transport = true :=
    decide_eq_true rfl
  rw [waiting] at single
  rcases Transport.disconnectReq_cases transport (sound.idle found) with
    ⟨connected, starts⟩ | refuses
  · have none : transports.disconnectCfms transport = transports.disconnectRequests transport :=
      sound.answered.disconnects transport t found (by rw [connected]; exact nofun)
    refine ⟨⟨(List.getElem?_eq_some_iff.mp found).1, rfl,
      fun other different => decide_eq_false (Ne.symm different),
      Transport.disconnectReq_own transport, by rw [starts]; exact nofun⟩, ?_, ?_⟩
    · rw [change_disconnectCfms, change_disconnectRequests, asked, starts]
      exact iff_of_true trivial
        ⟨by change 0 + _ ≤ _ + 1; omega, fun idle => absurd rfl idle⟩
    · rw [waiting, change_disconnectCfms, change_disconnectRequests, asked, starts]
      change _ + 1 - (0 + _) ≤ 1
      omega
  · have refused : (t.disconnectReq transport).2.countP
        (Effect.confirmsDisconnect transport) = 1 := by
      rw [refuses]
      simp [Effect.confirmsDisconnect]
    refine ⟨⟨(List.getElem?_eq_some_iff.mp found).1, rfl,
      fun other different => decide_eq_false (Ne.symm different),
      Transport.disconnectReq_own transport,
      by rw [refuses]; exact sound.idle found⟩, ?_, ?_⟩
    · rw [change_disconnectCfms, change_disconnectRequests, asked, if_pos rfl, refused]
      refine iff_of_true trivial ⟨by omega, fun idle => ?_⟩
      rw [refuses] at idle
      rw [sound.answered.disconnects transport t found idle, Nat.add_comm]
    · rw [waiting, change_disconnectCfms, change_disconnectRequests, asked, if_pos rfl, refused]
      omega

theorem stepped_of_count (changed : Changed transports event transport after)
    (silent : event.asksDisconnect transport = false) (orderly : transports.Orderly event ↔
      after.2.countP (Effect.confirmsDisconnect transport) ≤ transports.waiting transport ∧
        (after.1.state ≠ .disconnecting → after.2.countP (Effect.confirmsDisconnect transport) =
            transports.waiting transport)) : Stepped transports event transport after := by
  have confirmed := sound.answered.confirmed transport
  have single := sound.single transport
  rw [waiting] at single
  refine ⟨changed, ?_, ?_⟩
  · rw [orderly, change_disconnectCfms, change_disconnectRequests, silent,
      if_neg Bool.false_ne_true, waiting]
    refine and_congr (by omega) (imp_congr_right fun _ => by omega)
  · rw [waiting, change_disconnectCfms, change_disconnectRequests, silent,
      if_neg Bool.false_ne_true]
    omega

section

variable (found : transports.list[transport]? = some t)

include found

theorem stepped_disconnectCfm (success : Bool) :
    Stepped transports (.disconnectCfm transport success) transport
      (t.disconnectCfm transport success) := by
  have single := sound.single transport
  refine stepped_of_count sound
    ⟨(List.getElem?_eq_some_iff.mp found).1, rfl, fun _ _ => rfl,
      Transport.disconnectCfm_own transport success,
      Transport.disconnectCfm_state transport success (sound.idle found)⟩ rfl ?_
  rw [Transport.disconnectCfm_count, Orderly]
  constructor
  · exact fun asked => ⟨by omega, fun _ => by omega⟩
  · exact fun counted => by omega

theorem stepped_disconnectInd :
    Stepped transports (.disconnectInd transport) transport (t.disconnectInd transport) := by
  have single := sound.single transport
  refine stepped_of_count sound
    ⟨(List.getElem?_eq_some_iff.mp found).1, rfl, fun _ _ => rfl,
      Transport.disconnectInd_own transport, nofun⟩ rfl ?_
  rw [Transport.disconnectInd_count, Orderly]
  by_cases disconnects : t.state = .disconnecting
  · rw [if_pos disconnects]
    constructor
    · intro asked
      have some := asked t found disconnects
      exact ⟨by omega, fun _ => by omega⟩
    · intro counted other here _
      omega
  · rw [if_neg disconnects, sound.atRest found disconnects]
    refine iff_of_true ?_ ⟨Nat.le_refl 0, fun _ => rfl⟩
    intro other here other_disconnects
    rw [found] at here
    cases here
    exact absurd other_disconnects disconnects

theorem stepped_errorInd (reports : t.errorInd transport = some after) :
    Stepped transports (.errorInd transport) transport after := by
  rw [Transport.errorInd] at reports
  split at reports
  · cases reports
    refine stepped_of_count sound
      ⟨(List.getElem?_eq_some_iff.mp found).1, rfl, fun _ _ => rfl, ?_, nofun⟩ rfl ?_
    · intro effect member
      rw [List.mem_singleton.mp member]
      rfl
    · change _ = 0 ↔ 0 ≤ _ ∧ (_ → 0 = _)
      exact ⟨fun none => ⟨Nat.zero_le _, fun _ => none.symm⟩, fun counted => (counted.2 nofun).symm⟩
  · contradiction

theorem stepped_connectInd {success : Bool}
    {tpBdAddr : Option TpBdAddr} {reported : DisconnectReport}
    (indicates : t.connectInd transport success tpBdAddr reported = some after) :
    Stepped transports (.connectInd transport success tpBdAddr reported) transport after := by
  obtain ⟨state, own, counted⟩ := Transport.connectInd_cases transport (sound.idle found) indicates
  have left : after.1.state ≠ .disconnecting ∧ after.1.state ≠ .connecting := by
    rw [state]
    cases success <;> exact ⟨nofun, nofun⟩
  refine stepped_of_count sound
    ⟨(List.getElem?_eq_some_iff.mp found).1, rfl, fun _ _ => rfl, own, left.2⟩ rfl ?_
  rw [counted, Orderly]
  by_cases disconnects : t.state = .disconnecting
  · have same : (if success = true ∧ t.state = .disconnecting then reported.answers else 0) =
        if success = true then reported.answers else 0 := by
      cases success with
      | true => rw [if_pos ⟨rfl, disconnects⟩, if_pos rfl]
      | false => rw [if_neg fun both => Bool.false_ne_true both.1, if_neg Bool.false_ne_true]
    rw [same]
    constructor
    · intro orderly
      have equal := orderly t found disconnects
      exact ⟨Nat.le_of_eq equal.symm, fun _ => equal.symm⟩
    · intro equal other here _
      exact (equal.2 left.1).symm
  · have none : ¬ (success = true ∧ t.state = .disconnecting) :=
      fun both => disconnects both.2
    rw [if_neg none, sound.atRest found disconnects]
    refine iff_of_true ?_ ⟨Nat.le_refl 0, fun _ => rfl⟩
    intro other here other_disconnects
    rw [found] at here
    cases here
    exact absurd other_disconnects disconnects

end

theorem stepped (steps : transports.step event = some next) (request : event.asksConnect = false) :
    ∃ transport after, next = transports.change event transport after ∧
      Stepped transports event transport after := by
  cases event with
  | connectReq type tpBdAddr => contradiction
  | connectInd transport success tpBdAddr reported =>
    obtain ⟨t, found, reports⟩ := Option.bind_eq_some_iff.mp steps
    obtain ⟨after, indicates, rfl⟩ := Option.map_eq_some_iff.mp reports
    exact ⟨transport, after, rfl, stepped_connectInd sound found indicates⟩
  | disconnectReq transport =>
    obtain ⟨t, found, rfl⟩ := Option.map_eq_some_iff.mp steps
    exact ⟨transport, _, rfl, stepped_disconnectReq sound found⟩
  | disconnectCfm transport success =>
    obtain ⟨t, found, rfl⟩ := Option.map_eq_some_iff.mp steps
    exact ⟨transport, _, rfl, stepped_disconnectCfm sound found success⟩
  | disconnectInd transport =>
    obtain ⟨t, found, rfl⟩ := Option.map_eq_some_iff.mp steps
    exact ⟨transport, _, rfl, stepped_disconnectInd sound found⟩
  | errorInd transport =>
    obtain ⟨t, found, reports⟩ := Option.bind_eq_some_iff.mp steps
    obtain ⟨after, indicates, rfl⟩ := Option.map_eq_some_iff.mp reports
    exact ⟨transport, after, rfl, stepped_errorInd sound found indicates⟩

end

def requested (transports : Transports) (type : TransportType)
    (tpBdAddr : Option TpBdAddr) : Transports :=
  { transports with
    events := .connectReq type tpBdAddr :: transports.events
    effects := transports.connectReq type tpBdAddr :: transports.effects }

theorem connectReq_eq_refusal {type : TransportType} (tpBdAddr : Option TpBdAddr)
    (refused : ∀ t ∈ transports.list, ¬ t.Accepts type) :
    transports.connectReq type tpBdAddr = .gaiaConnectCfm none false tpBdAddr := by
  have nowhere : (transports.list.findIdx? fun t => decide (t.Accepts type)) = none := by
    rw [List.findIdx?_eq_none_iff]
    exact fun t member => decide_eq_false (refused t member)
  rw [connectReq, nowhere]

theorem connectReq_eq_call {type : TransportType} (tpBdAddr : Option TpBdAddr)
    (accepted : ¬ ∀ t ∈ transports.list, ¬ t.Accepts type) :
    ∃ transport, transports.connectReq type tpBdAddr = .connectReq transport tpBdAddr := by
  cases place : transports.list.findIdx? fun t => decide (t.Accepts type) with
  | none =>
    rw [List.findIdx?_eq_none_iff] at place
    exact absurd (fun t member => of_decide_eq_false (place t member)) accepted
  | some transport => exact ⟨transport, by rw [connectReq, place]⟩

section

variable (type : TransportType) (tpBdAddr : Option TpBdAddr)

include type tpBdAddr

theorem requested_connectRequests :
    (transports.requested type tpBdAddr).connectRequests = transports.connectRequests + 1 :=
  List.countP_cons_of_pos rfl

theorem requested_disconnectCfms (transport : Nat) :
    (transports.requested type tpBdAddr).disconnectCfms transport =
      transports.disconnectCfms transport := by
  refine List.countP_cons_of_neg ?_
  rw [connectReq]
  split <;> exact Bool.false_ne_true

theorem requested_waiting (transport : Nat) :
    (transports.requested type tpBdAddr).waiting transport = transports.waiting transport := by
  rw [waiting, requested_disconnectCfms]
  rfl

end

theorem requested_answered_iff (sound : transports.Sound) (type : TransportType)
    (tpBdAddr : Option TpBdAddr) :
    (transports.requested type tpBdAddr).Answered ↔
      ∀ t ∈ transports.list, ¬ t.Accepts type := by
  have idle := connecting_eq_zero sound.never
  have connects := sound.answered.connects
  rw [idle, Nat.add_zero] at connects
  constructor
  · intro answered
    by_contra accepted
    obtain ⟨transport, calls⟩ := connectReq_eq_call tpBdAddr accepted
    have owed := answered.connects
    have unconfirmed : (transports.requested type tpBdAddr).connectCfms = transports.connectCfms :=
      List.countP_cons_of_neg (by rw [calls]; exact Bool.false_ne_true)
    rw [unconfirmed, requested_connectRequests, requested, idle] at owed
    omega
  · intro refused
    have refusal : (transports.requested type tpBdAddr).connectCfms = transports.connectCfms + 1 :=
      List.countP_cons_of_pos (by rw [connectReq_eq_refusal tpBdAddr refused]; rfl)
    constructor
    · rw [refusal, requested_connectRequests, requested, idle, connects]
    · intro transport
      rw [requested_disconnectCfms]
      exact sound.answered.confirmed transport
    · intro transport t found disconnected
      rw [requested_disconnectCfms]
      exact sound.answered.disconnects transport t found disconnected

theorem Sound.answered_iff (sound : transports.Sound)
    (steps : transports.step event = some next) :
    next.Answered ↔ transports.Orderly event := by
  cases request : event.asksConnect with
  | false =>
    obtain ⟨transport, after, rfl, stepped⟩ := stepped sound steps request
    exact (stepped.changed.answered_iff sound).trans stepped.orderly.symm
  | true =>
    cases event with
    | connectReq type tpBdAddr =>
      cases steps
      exact requested_answered_iff sound type tpBdAddr
    | _ => contradiction

theorem Sound.step (sound : transports.Sound) (orderly : transports.Orderly event)
    (steps : transports.step event = some next) : next.Sound := by
  have answered := (sound.answered_iff steps).mpr orderly
  cases request : event.asksConnect with
  | false =>
    obtain ⟨transport, after, rfl, stepped⟩ := stepped sound steps request
    refine ⟨answered, fun other => ?_, stepped.changed.never sound.never⟩
    by_cases same : other = transport
    · exact same ▸ stepped.single
    · rw [waiting, stepped.changed.disconnectCfms_eq same,
        stepped.changed.disconnectRequests_eq same]
      exact sound.single other
  | true =>
    cases event with
    | connectReq type tpBdAddr =>
      cases steps
      exact ⟨answered, fun transport =>
        Nat.le_trans (Nat.le_of_eq (requested_waiting type tpBdAddr transport))
          (sound.single transport),
        sound.never⟩
    | _ => contradiction

theorem Sound.start {list : List Transport}
    (resting : ∀ t ∈ list, t.state ≠ .connecting) : (Transports.start list).Sound where
  answered :=
    { connects := (Nat.zero_add _).trans (connecting_eq_zero resting)
      confirmed := fun _ => Nat.le_refl 0
      disconnects := fun _ _ _ _ => rfl }
  single := fun _ => Nat.zero_le 1
  never := resting

end Transports

section Runs

variable {list : List Transport} {events : List TransportEvent} {transports : Transports}

namespace Transports

/-- As long as all events are orderly, each request is confirmed once, and the next event
keeps it so just when it is orderly. -/
theorem run_answered_iff (resting : ∀ t ∈ list, t.state ≠ .connecting)
    (runs : runAllowed step Orderly events (start list) = some transports) :
    transports.Answered ∧
      ∀ event next, transports.step event = some next →
        (next.Answered ↔ transports.Orderly event) := by
  have sound : transports.Sound :=
    (Reached.run .start runs).invariant (.start resting)
      fun _ _ _ orderly steps sound => sound.step orderly steps
  exact ⟨sound.answered, fun event next steps => sound.answered_iff steps⟩

def testAndRfcomm : List Transport :=
  [{ functions := { connectReq := true, disconnectReq := true, error := true }
     type := .test, state := .started, tpBdAddr := none },
    { functions := { connectReq := false, disconnectReq := true, error := true }
      type := .rfcomm, state := .started, tpBdAddr := none }]

theorem rfcommDisconnects_answered :
    ∃ transports, runAllowed step Orderly
        [.connectInd 1 true (some ⟨0, 7⟩) .later, .disconnectReq 1, .disconnectReq 1,
          .connectReq .rfcomm none, .disconnectCfm 1 true]
        (start testAndRfcomm) = some transports ∧
      (transports.Answered ∧
        ∀ event next, transports.step event = some next →
          (next.Answered ↔ transports.Orderly event)) := by
  have found : (runAllowed step Orderly
      [.connectInd 1 true (some ⟨0, 7⟩) .later, .disconnectReq 1, .disconnectReq 1,
        .connectReq .rfcomm none, .disconnectCfm 1 true]
      (start testAndRfcomm)).isSome = true := by
    decide +kernel
  obtain ⟨transports, runs⟩ := Option.isSome_iff_exists.mp found
  exact ⟨transports, runs, run_answered_iff (by decide) runs⟩

/-- The connection is to be ended, and an error of a packet that is still sent ends it without a
confirmation.  Nor is a connect request for the test transport confirmed. -/
theorem errorWhileDisconnecting_unanswered :
    (∃ transports,
      [TransportEvent.connectInd 1 true (some ⟨0, 7⟩) .later, .disconnectReq 1, .errorInd 1,
          .disconnectInd 1].foldlM step (start testAndRfcomm) = some transports ∧
        transports.effects = [.gaiaDisconnectInd 1 (some ⟨0, 7⟩), .error 1, .disconnectReq 1,
            .gaiaConnectInd 1 true (some ⟨0, 7⟩)] ∧
        ¬ transports.Answered) ∧
      ∃ transports,
        [TransportEvent.connectReq .test none, .connectInd 0 true none .later].foldlM step
            (start testAndRfcomm) = some transports ∧
          transports.effects = [.gaiaConnectInd 0 true none, .connectReq 0 none] ∧
          ¬ transports.Answered := by
  constructor
  · refine ⟨_, rfl, rfl, fun answered => ?_⟩
    exact absurd (answered.disconnects 1 _ rfl nofun) (by decide)
  · refine ⟨_, rfl, rfl, fun answered => ?_⟩
    exact absurd answered.connects (by decide)

end Transports

end Runs

end HeadsetAdk.Gaia
