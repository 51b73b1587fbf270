import HeadsetAdk.Rafs.CreationRuns

/-! # The background work ends -/

namespace HeadsetAdk.Rafs

open NorFlash BlockAccounts

section Deliveries

variable {s : System} {created : List StoredName} {message : WorkMessage}

/-- While background work is going on, its message can be delivered. -/
theorem CreationOk.delivers (ok : CreationOk s created) (busy : s.self.busy = true) :
    ∃ message s', s.queue = [message] ∧ s.step (.deliver 0) = .ok (s', none) ∧
      Progress { s with queue := [] } message s' := by
  have delivered {message : WorkMessage} {s' : System} (queued : s.queue = [message])
      (handled : ({ s with queue := [] } : System).handleMessage message = .ok s') :
      s.step (.deliver 0) = .ok (s', none) := by
    simp [System.step, queued, handled, bind, Except.bind, pure, Except.pure]
  cases ok with
  | compacting isMounted hasFiles info quiet phase _ work =>
    obtain ⟨s', handled, _, progress⟩ := @CreationOk.deliver { s with queue := [] } created _ _ _ _
      isMounted hasFiles info quiet phase busy rfl
    exact ⟨_, s', work, delivered work handled, progress⟩
  | settled ok _ =>
    obtain ⟨message, s', _, _, queued, handled, _, _, progress⟩ := ok.handles busy
    exact ⟨message, s', queued, delivered queued handled, progress⟩

/-- Deliveries of the first work message, as many as that -/
def System.deliverTimes : Nat → System → Except Fault System
  | 0, s => .ok s
  | count + 1, s => do
      let (s, _) ← s.step (.deliver 0)
      deliverTimes count s

theorem CreationOk.drains (ok : CreationOk s created) (size : s.info.blockSize = directorySize)
    (busy : s.self.busy = true) (queued : s.queue = [message]) :
    ∃ count ≤ message.left s.info + 1, ∃ s', s.deliverTimes count = .ok s' ∧
      s'.self.busy = false ∧ s'.queue = [] ∧
        ∃ numFreeSlots, s'.sent = s.sent ++ message.confirmations numFreeSlots := by
  -- The induction is on what is left to do, which each delivery lessens.
  induction enough : message.left s.info using Nat.strong_induction_on generalizing s message with
  | _ left ih =>
    obtain ⟨first, s', queued', stepped, progress⟩ := ok.delivers busy
    obtain rfl : message = first := by simpa [queued] using queued'
    have creating : s.isCreationEvent (.deliver 0) = true := rfl
    obtain ⟨ok', info⟩ := ok.step size creating rfl stepped
    cases progress with
    | ended numFreeSlots idle queue sent =>
      refine ⟨1, by omega, s', ?_, idle, queue, numFreeSlots, sent⟩
      rw [System.deliverTimes, stepped]
      rfl
    | goesOn rest busy' queue sent less same =>
      have fewer : rest.left s.info < left := enough ▸ less
      obtain ⟨count, few, final, delivered, idle, done, numFreeSlots, sent'⟩ :=
        ih _ fewer ok' (info ▸ size) (busy'.trans busy) queue (by rw [info])
      refine ⟨count + 1, by omega, final, ?_, idle, done, numFreeSlots, ?_⟩
      · rw [System.deliverTimes, stepped]
        exact delivered
      · rw [sent', sent, same]

end Deliveries

section Runs

variable {info : PartInfo} {cells : Cells} {free : Nat} {state : System × List StoredName}
  (size : info.blockSize = directorySize) (flash : FlashOk info cells free)
  (increasing : ((liveFiles cells .priFat).map Prod.snd).Pairwise (· < ·))
  (reached : Reached System.creationStep CreationStep
    (System.init info cells, (liveFiles cells .priFat).map Prod.fst) state)

include size flash increasing reached

theorem reached_creationOk : CreationOk state.1 state.2 ∧ state.1.info = info := by
  have start : SystemOk (System.init info cells) := .unmounted rfl rfl rfl rfl flash
  induction reached with
  | start =>
    refine ⟨.settled start ((start.unmountedOrder rfl).mpr ?_), rfl⟩
    exact ⟨rfl, increasing, fun _ none => absurd none (by simp)⟩
  | step event before allowed steps ih =>
    unfold System.creationStep at steps
    split at steps
    · contradiction
    · rename_i stepped
      cases steps
      obtain ⟨ok, same⟩ := ih.1.step (by rw [ih.2, size]) allowed.1 allowed.2 stepped
      exact ⟨ok, same.trans ih.2⟩

/-- In every run from a partition whose files are in order, background work that is going on
ends: one message is queued, and after at most as many deliveries as there is left to do, and one
more, the system is ready and the task has been sent the one confirmation.  No call meanwhile
changes anything. -/
theorem reached_workEnds (busy : state.1.self.busy = true) :
    ∃ message, state.1.queue = [message] ∧
      (∃ count ≤ message.left info + 1, ∃ s', state.1.deliverTimes count = .ok s' ∧
        s'.self.busy = false ∧ s'.queue = [] ∧
          ∃ numFreeSlots, s'.sent = state.1.sent ++ message.confirmations numFreeSlots) ∧
      ∀ event answer s', state.1.isCreationEvent event = true → (∀ index, event ≠ .deliver index) →
        state.1.step event = .ok (s', answer) → s' = state.1 := by
  obtain ⟨ok, same⟩ := reached_creationOk size flash increasing reached
  obtain ⟨message, _, queued, _⟩ := ok.delivers busy
  refine ⟨message, queued, ?_, fun event answer s' creating call stepped =>
    (@busy_refuses _ _ state.2 busy event creating call answer stepped).1⟩
  obtain ⟨count, few, ends⟩ := ok.drains (same ▸ size) busy queued
  exact ⟨count, same ▸ few, ends⟩

/-- In every such run, whenever no compaction is going on the two tables agree, and while the
partition is mounted its blocks are accounted for. -/
theorem reached_tables (settled : ∀ task phase, state.1.queue ≠ [.compactWork task phase]) :
    (∀ id, entryAt state.1.device.cells id 0 = getInitialRoot id) ∧
      (∀ slot, 1 ≤ slot → slot < 113 →
        entryAt state.1.device.cells .secFat slot = entryAt state.1.device.cells .priFat slot) ∧
      (state.1.self.partition ≠ none → SpaceAccounted state.1) := by
  obtain ⟨ok, -⟩ := reached_creationOk size flash increasing reached
  cases ok with
  | compacting _ _ _ _ _ _ work => exact absurd work (settled _ _)
  | settled ok _ =>
    have accounted := ok.spaceAccounted
    cases ok with
    | unmounted _ _ _ _ flash => exact ⟨flash.tables.roots, flash.tables.mirrored, accounted⟩
    | mounted _ _ _ volume => exact ⟨volume.tables.roots, volume.tables.mirrored, accounted⟩

end Runs

/-- The result of a run on a formatted partition that has room for one file -/
def creationRun (events : List System.Event) : Option (System × List StoredName) :=
  runAllowed System.creationStep CreationStep events
    (System.init smallPartition (formattedCells smallPartition fun _ => 0),
      (liveFiles (formattedCells smallPartition fun _ => 0) .priFat).map Prod.fst)

/-- A file is created and removed, and the directory is to be compacted. -/
def compactAll : List System.Event :=
  fillPartition.dropLast ++ [.remove none pathA, .deliver 0, .compact (some 3) pathA]

theorem formatted_increasing : ((liveFiles (formattedCells smallPartition fun _ => 0)
    .priFat).map Prod.snd).Pairwise (· < ·) := by
  rw [formatted_liveFiles]
  exact List.Pairwise.nil

theorem compaction_workEnds : ∃ (state s' : System) (message : WorkMessage) (count : Nat),
    state.self.busy = true ∧ state.queue = [message] ∧ state.deliverTimes count = .ok s' ∧
      s'.self.busy = false := by
  have runs : (creationRun compactAll).any (·.1.self.busy) = true := by decide +kernel
  obtain ⟨state, ran, busy⟩ := (Option.any_eq_true _ _).mp runs
  obtain ⟨message, queued, ⟨count, _, s', delivered, idle, _⟩, _⟩ := reached_workEnds rfl
    (formatted_flashOk smallPartition _) formatted_increasing (Reached.start.run ran) busy
  exact ⟨state.1, s', message, count, busy, queued, delivered, idle⟩

theorem compaction_tables : ∃ state : System, state.self.partition ≠ none ∧
    SpaceAccounted state := by
  have runs : (creationRun (compactAll ++ List.replicate 9 (.deliver 0))).any
      (fun state => state.1.self.partition.isSome && state.1.queue.isEmpty) = true := by
    decide +kernel
  obtain ⟨state, ran, settled⟩ := (Option.any_eq_true _ _).mp runs
  obtain ⟨mounted, settled⟩ := (Bool.and_eq_true _ _).mp settled
  have isMounted := Option.isSome_iff_ne_none.mp mounted
  exact ⟨state.1, isMounted, (reached_tables rfl (formatted_flashOk smallPartition _)
    formatted_increasing (Reached.start.run ran)
    (by rw [List.isEmpty_iff.mp settled]; exact nofun)).2.2 isMounted⟩

end HeadsetAdk.Rafs
