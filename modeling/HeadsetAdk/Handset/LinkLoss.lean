import HeadsetAdk.Handset.HandsetMessages
import HeadsetAdk.Lib.EventLog

/-! # Lost links -/

namespace HeadsetAdk.Handset

/-- `hci_error_conn_timeout` or `hci_error_lmp_response_timeout` -/
def HciStatus.isLinkLoss (reason : HciStatus) : Bool :=
  reason = .other 0x08 || reason = .other 0x22

/-- Whether `handset_context_link_loss` or `handset_context_disconnected` is set, and whether
the indication has `handset_service_status_link_loss`. -/
structure Notice where
  contextLinkLoss : Bool
  linkLoss : Bool
deriving DecidableEq

/-- What `handsetServiceSm_EnterDisconnected` does for its reason. -/
def notice (reconnecting : Bool) (reason : HciStatus) : Notice :=
  if reason.isLinkLoss = true then ⟨true, true⟩ else ⟨reconnecting, false⟩

inductive Happening
  | lost
  | disconnected (notice : Notice)
deriving DecidableEq

/-- A machine with its `disconnect_reason`, and what happened to it, the newest first. -/
structure Tracked where
  sm : HandsetSm
  disconnectReason : HciStatus
  history : List Happening

inductive LinkEvent
  | create (device leAddr : Option Bdaddr)
  | input (context : Context) (connectable : Connectable) (input : Input)

namespace Tracked

/-- `HandsetServiceSm_Init` sets all to zero. -/
def boot : Tracked := ⟨.boot, .other 0, []⟩

def idle (sm : HandsetSm) : Bool := sm.state = .disconnected || sm.state = .null

/-- The reason that `HandsetServiceSm_HandleConManagerBredrTpDisconnectInd` stores. -/
def storedReason (context : Context) (sm : HandsetSm) : Input → Option HciStatus
  | .tpDisconnectInd _ reason => if (sm.deviceIfValid context).isSome then some reason else none
  | _ => none

def isLoss : Input → Bool
  | .tpDisconnectInd _ reason => reason.isLinkLoss
  | _ => false

/-- The state is set to `HANDSET_SERVICE_STATE_DISCONNECTED`, after which the machine may go
out of use.  It does so with a disconnected LE link without entering that state. -/
def enters (sm next : HandsetSm) (input : Input) : Bool :=
  !idle sm && idle next && input ≠ .bleTpDisconnectInd

def noted (history : List Happening) (input : Input) : List Happening :=
  if isLoss input = true then .lost :: history else history

def step (tracked : Tracked) : LinkEvent → Option Tracked
  | .create device leAddr =>
    if tracked.sm.state = .null then
      some ⟨tracked.sm.created device leAddr, .other 0, tracked.history⟩
    else none
  | .input context connectable input =>
    if tracked.sm.state = .null ∧ input.isToTask = false then none
    else
      (Handling.handle context ⟨tracked.sm, connectable⟩ input).map fun next =>
        let reason := (storedReason context tracked.sm input).getD tracked.disconnectReason
        let history := noted tracked.history input
        ⟨next.sm, reason,
          if enters tracked.sm next.sm input = true then
            .disconnected (notice context.world.reconnecting reason) :: history
          else history⟩

/-- How many losses were not followed by the state. -/
def owed : List Happening → Nat
  | .lost :: earlier => owed earlier + 1
  | .disconnected _ :: _ => 0
  | [] => 0

structure NotifiedOnce (tracked : Tracked) : Prop where
  each : ∀ notice earlier, .disconnected notice :: earlier <:+ tracked.history →
    owed earlier ≤ 1 ∧ (notice.linkLoss = true ↔ owed earlier = 1) ∧
      (notice.linkLoss = true → notice.contextLinkLoss = true)
  settled : idle tracked.sm = true → owed tracked.history = 0

/-- A link is lost while the machine has it, and its loss is told before another indication or
before the machine goes out of use with its LE link.  With the reason of a loss that was told,
the machine does not enter the state again until it has stored another one. -/
def Permitted (tracked : Tracked) : LinkEvent → Prop
  | .create _ _ => True
  | .input context connectable input =>
    (isLoss input = true →
      (tracked.sm.deviceIfValid context).isSome = true ∧ idle tracked.sm = false) ∧
    (input.isTpDisconnectInd = true → owed tracked.history = 0) ∧
    (input = .bleTpDisconnectInd →
      owed tracked.history = 0 ∨ idle (tracked.sm.bleSetDisconnected context) = false) ∧
    (storedReason context tracked.sm input = none → tracked.disconnectReason.isLinkLoss = true →
      owed tracked.history = 0 →
      (Handling.handle context ⟨tracked.sm, connectable⟩ input).all
        (fun next => !enters tracked.sm next.sm input) = true)

instance (tracked : Tracked) (event : LinkEvent) : Decidable (Permitted tracked event) :=
  match event with
  | .create _ _ => inferInstanceAs (Decidable True)
  | .input _ _ _ => inferInstanceAs (Decidable (_ ∧ _ ∧ _ ∧ _))

section Runs

variable {tracked next : Tracked} {context : Context} {connectable : Connectable} {input : Input}

structure Sound (tracked : Tracked) : Prop where
  notified : NotifiedOnce tracked
  few : owed tracked.history ≤ 1
  reason : owed tracked.history = 1 → tracked.disconnectReason.isLinkLoss = true

theorem noted_sound (sound : Sound tracked)
    (permitted : Permitted tracked (.input context connectable input)) :
    owed (noted tracked.history input) ≤ 1 ∧ (owed (noted tracked.history input) = 1 →
        ((storedReason context tracked.sm input).getD
          tracked.disconnectReason).isLinkLoss = true) := by
  obtain ⟨timely, single, -, -⟩ := permitted
  by_cases loss : isLoss input = true
  · have valid := (timely loss).1
    cases input <;> try cases loss
    case tpDisconnectInd device reason =>
      have none := single rfl
      rw [noted, if_pos loss, owed, none, storedReason, if_pos valid]
      exact ⟨Nat.le_refl 1, fun _ => loss⟩
  · rw [noted, if_neg loss]
    refine ⟨sound.few, fun one => ?_⟩
    have notInd : input.isTpDisconnectInd = false := by
      by_contra ind
      rw [single (Bool.not_eq_false _ ▸ ind)] at one
      cases one
    cases input <;> first | exact sound.reason one | cases notInd

theorem notice_linkLoss (reconnecting : Bool) (reason : HciStatus) :
    (notice reconnecting reason).linkLoss = reason.isLinkLoss := by
  rw [notice]
  cases reason.isLinkLoss <;> rfl

theorem notice_context (reconnecting : Bool) (reason : HciStatus) :
    (notice reconnecting reason).linkLoss = true →
      (notice reconnecting reason).contextLinkLoss = true := by
  rw [notice]
  cases reason.isLinkLoss <;> simp

theorem suffix_noted {notice : Notice} {earlier history : List Happening} (input : Input)
    (suffix : .disconnected notice :: earlier <:+ noted history input) :
    .disconnected notice :: earlier <:+ history := by
  rw [noted] at suffix
  split at suffix
  · rcases List.suffix_cons_iff.mp suffix with same | inside
    · cases same
    · exact inside
  · exact suffix

section

variable (sound : Sound tracked) (permitted : Permitted tracked (.input context connectable input))
  {handling : Handling}
  (handled : Handling.handle context ⟨tracked.sm, connectable⟩ input = some handling)

include sound permitted handled

theorem linkLoss_iff_owed (entered : enters tracked.sm handling.sm input = true) :
    ((storedReason context tracked.sm input).getD
        tracked.disconnectReason).isLinkLoss = true ↔
      owed (noted tracked.history input) = 1 := by
  refine ⟨fun linkLoss => ?_, (noted_sound sound permitted).2⟩
  obtain ⟨timely, single, -, fresh⟩ := permitted
  cases stored : storedReason context tracked.sm input with
  | none =>
    rw [stored] at linkLoss
    have known : ¬ isLoss input = true := fun loss => by
      have valid := (timely loss).1
      cases input <;> try cases loss
      rw [storedReason, if_pos valid] at stored
      cases stored
    rw [noted, if_neg known]
    have few := sound.few
    have some_owed : owed tracked.history ≠ 0 := fun none => by
      have stays := fresh stored linkLoss none
      rw [handled, Option.all_some, entered] at stays
      cases stays
    omega
  | some reason =>
    rw [stored] at linkLoss
    cases input <;> try cases stored
    case tpDisconnectInd device other =>
      rw [storedReason] at stored
      split at stored
      · cases stored
        have loss : isLoss (.tpDisconnectInd device reason) = true := linkLoss
        rw [noted, if_pos loss, owed, single rfl]
      · cases stored

theorem settled_of_stays (stays : ¬ enters tracked.sm handling.sm input = true)
    (now : idle handling.sm = true) :
    owed (noted tracked.history input) = 0 := by
  obtain ⟨timely, -, leaves, -⟩ := permitted
  by_cases before : idle tracked.sm = true
  · have known : ¬ isLoss input = true := fun loss =>
      absurd (before.symm.trans (timely loss).2) (by decide)
    rw [noted, if_neg known]
    exact sound.notified.settled before
  · have ble : input = .bleTpDisconnectInd := by
      by_contra other
      exact stays (by simp [enters, before, now, other])
    subst ble
    cases handled
    rcases leaves rfl with none | still
    · exact none
    · exact absurd (now.symm.trans still) (by decide)

end

theorem sound_step_input (sound : Sound tracked)
    (permitted : Permitted tracked (.input context connectable input))
    (stepped : tracked.step (.input context connectable input) = some next) : Sound next := by
  obtain ⟨few, reason⟩ := noted_sound sound permitted
  rw [step] at stepped
  split at stepped
  · cases stepped
  · obtain ⟨handling, handled, rfl⟩ := Option.map_eq_some_iff.mp stepped
    by_cases entered : enters tracked.sm handling.sm input = true
    · have told := linkLoss_iff_owed sound permitted handled entered
      simp only [entered, if_true]
      refine ⟨⟨fun notice' earlier suffix => ?_, fun _ => rfl⟩, Nat.zero_le 1, fun one => ?_⟩
      · rcases List.suffix_cons_iff.mp suffix with same | inside
        · cases same
          exact ⟨few, notice_linkLoss _ _ ▸ told, notice_context _ _⟩
        · exact sound.notified.each _ _ (suffix_noted input inside)
      · cases one
    · simp only [entered]
      exact ⟨⟨fun _ _ suffix => sound.notified.each _ _ (suffix_noted input suffix),
        settled_of_stays sound permitted handled entered⟩, few, reason⟩

theorem sound_step {event : LinkEvent} (sound : Sound tracked)
    (permitted : Permitted tracked event) (stepped : tracked.step event = some next) :
    Sound next := by
  cases event with
  | create device leAddr =>
    rw [step] at stepped
    split at stepped
    next unused =>
      cases stepped
      have none : owed tracked.history = 0 := sound.notified.settled (by rw [idle, unused]; rfl)
      exact ⟨⟨sound.notified.each, fun _ => none⟩, sound.few, fun one =>
        absurd (none.symm.trans one) (by decide)⟩
    next => cases stepped
  | input context connectable input => exact sound_step_input sound permitted stepped

theorem sound_boot : Sound boot := by
  refine ⟨⟨fun notice earlier suffix => ?_, fun _ => rfl⟩, Nat.zero_le 1, fun one => ?_⟩
  · cases List.suffix_nil.mp suffix
  · cases one

def around (isConnected : Bool) : Context :=
  ⟨⟨true, true, false, 0, 0, isConnected, true, true, true, true, true, 0, false⟩, 0, 2⟩

def gets (isConnected : Bool) (input : Input) : LinkEvent :=
  .input (around isConnected) ⟨true, false⟩ input

def lostOnce : List LinkEvent :=
  [.create (some 7) none, gets true (.bleTpConnectInd (some 7) 9),
    gets true (.connectedProfileInd 7 1), gets false (.tpDisconnectInd 7 (.other 0x08))]

/-- Then a connection is asked for, and the handset does not answer. -/
def pagedInVain : List LinkEvent :=
  lostOnce ++ [gets false (.connectReq 1 (some 7) 1),
    gets false (.internal (.connectReq (some 7) 1)), gets false (.internal .connectAclComplete)]

end Runs

end Tracked

end HeadsetAdk.Handset
