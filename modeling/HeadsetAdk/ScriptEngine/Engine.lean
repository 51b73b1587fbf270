import Mathlib.Data.List.Basic

/-!
# The script engine

Procedures start with success, as `scriptEngine_ProcStartCfm` demands.  The engine does nothing
more after it has called its client, so a script that the client starts from there is the next
event here.
-/

namespace HeadsetAdk.ScriptEngine

/-- `procedure_result_t` -/
inductive Result
  | success
  | timeout
  | failed
deriving DecidableEq

inductive EngineState
  | idle
  | active
  | cancelling
deriving DecidableEq

/-- What is started, what the procedures report as long as it counts, and the calls of
`complete_fn` and `cancel_fn`, with the state of the engine then -/
inductive Entry
  | begun (proc : Nat) (script : List Nat)
  | started (step procedure : Nat)
  | reported (result : Result)
  | cancelling
  | callback (proc : Nat) (cancelled : Bool) (result : Result) (state : EngineState)

/-- `ScriptEngineTaskData`, with a log of which the newest entry is the first -/
structure Engine where
  state : EngineState
  nextStep : Nat
  script : List Nat
  proc : Nat
  scriptClient : Nat
  log : List Entry

def Engine.boot : Engine := ⟨.idle, 0, [], 0, 0, []⟩

/-- `scriptEngine_EngineReset` -/
def Engine.reset (engine : Engine) : Engine :=
  { engine with state := .idle, nextStep := 0, script := [] }

/-- The call of the client after the reset -/
def Engine.finish (engine : Engine) (cancelled : Bool) (result : Result) : Engine :=
  { engine.reset with
    log := .callback engine.reset.proc cancelled result engine.reset.state :: engine.log }

def Engine.note (engine : Engine) (entry : Entry) : Engine :=
  { engine with log := entry :: engine.log }

/-- `scriptEngine_StartCurrentStep` with the steps that are left.  A start function may complete
its step before it returns; the answer then goes through `scriptEngine_ProcCompleteCfm`. -/
def startCurrentStep (answers : Nat → Option Result) : (left : List Nat) → Engine → Engine
  | [], engine => engine.finish false .success
  | procedure :: left, engine =>
      let begun := engine.note (.started engine.nextStep procedure)
      match answers engine.nextStep with
      | none => begun
      | some .success =>
          startCurrentStep answers left
            { begun.note (.reported .success) with nextStep := engine.nextStep + 1 }
      | some result => (begun.note (.reported result)).finish false result

/-- `scriptEngine_ProcCompleteCfm` -/
def procCompleteCfm (engine : Engine) (result : Result) (answers : Nat → Option Result) : Engine :=
  if engine.state = .active then
    match result with
    | .success =>
        startCurrentStep answers (engine.script.drop (engine.nextStep + 1))
          { engine.note (.reported .success) with nextStep := engine.nextStep + 1 }
    | result => (engine.note (.reported result)).finish false result
  else engine

/-- `scriptEngine_ProcCancelCfm` -/
def procCancelCfm (engine : Engine) (result : Result) : Option Engine :=
  if engine.state = .cancelling then some ((engine.note (.reported result)).finish true result)
  else none

inductive Event
  | startScript (client : Nat) (script : List Nat) (proc : Nat) (answers : Nat → Option Result)
  | completed (result : Result) (answers : Nat → Option Result)
  | cancelScript (client : Nat) (completes confirms : Option Result)
  | cancelled (result : Result)

/-- The public functions, and the reports of procedures that come later.  A cancel function may
complete the step and confirm the cancel before it returns.  `none` is a panic. -/
def handle (engine : Engine) : Event → Option Engine
  | .startScript client script proc answers =>
      if engine.state = .idle then
        some (startCurrentStep answers script
          { state := .active
            nextStep := 0
            script := script
            proc := proc
            scriptClient := client
            log := .begun proc script :: engine.log })
      else none
  | .completed result answers => some (procCompleteCfm engine result answers)
  | .cancelScript client completes confirms =>
      if engine.scriptClient ≠ client then none
      else if engine.state ≠ .active then some engine
      else
        let engine := { engine.note .cancelling with state := .cancelling }
        let engine := completes.elim engine fun result => procCompleteCfm engine result fun _ => none
        confirms.elim (some engine) (procCancelCfm engine)
  | .cancelled result => procCancelCfm engine result

/-- How far a script has come -/
inductive Phase
  | idle
  | due (proc : Nat) (script : List Nat) (step : Nat)
  | running (proc : Nat) (script : List Nat) (step : Nat)
  | cancelling (proc : Nat)
  | ended (proc : Nat) (cancelled : Bool) (result : Result)

/-- Steps are started in order, after those before have succeeded, and the client is called once,
with the result of the step that ended the script, while the engine is idle. -/
def Phase.next : Phase → Entry → Option Phase
  | .idle, .begun proc script => some (.due proc script 0)
  | .due proc script step, .started step' procedure =>
      if step' = step ∧ script[step]? = some procedure then some (.running proc script step)
      else none
  | .due proc script step, .callback proc' cancelled result state =>
      if step = script.length ∧ (proc', cancelled, result, state) = (proc, false, .success, .idle)
      then some .idle
      else none
  | .running proc script step, .reported result =>
      some (if result = .success then .due proc script (step + 1) else .ended proc false result)
  | .running proc _ _, .cancelling => some (.cancelling proc)
  | .cancelling proc, .reported result => some (.ended proc true result)
  | .ended proc cancelled result, .callback proc' cancelled' result' state =>
      if (proc', cancelled', result', state) = (proc, cancelled, result, .idle) then some .idle
      else none
  | _, _ => none

def phase : List Entry → Option Phase
  | [] => some .idle
  | entry :: log => (phase log).bind fun before => before.next entry

/-- Between two events the engine is idle and the client of each script was called, or a step is
running or being cancelled. -/
structure AtRest (engine : Engine) : Prop where
  phase : phase engine.log = some (match engine.state with
    | .idle => .idle
    | .active => .running engine.proc engine.script engine.nextStep
    | .cancelling => .cancelling engine.proc)
  inside : engine.state = .active → engine.nextStep < engine.script.length

/-- Scripts are started when none is under way and cancelled by their client, and only what is
being cancelled confirms it. -/
def Permitted (engine : Engine) : Event → Prop
  | .startScript _ _ _ _ => engine.state = .idle
  | .completed _ _ => True
  | .cancelScript client _ _ => engine.scriptClient = client
  | .cancelled _ => engine.state = .cancelling

section Steps

variable {engine : Engine} {result : Result} {answers : Nat → Option Result}

theorem phase_reported {log : List Entry} {proc step : Nat} {script : List Nat}
    (running : phase log = some (.running proc script step)) (result : Result) :
    phase (.reported result :: log) = some
      (if result = .success then .due proc script (step + 1) else .ended proc false result) := by
  rw [phase, running]
  rfl

theorem finish_atRest {cancelled : Bool}
    (ended : phase engine.log = some (.ended engine.proc cancelled result)) :
    AtRest (engine.finish cancelled result) := by
  refine ⟨?_, EngineState.noConfusion⟩
  change (phase engine.log).bind _ = _
  rw [ended]
  exact if_pos rfl

theorem startCurrentStep_atRest {left : List Nat} (active : engine.state = .active)
    (due : phase engine.log = some (.due engine.proc engine.script engine.nextStep))
    (rest : engine.script.drop engine.nextStep = left)
    (inside : engine.nextStep ≤ engine.script.length) :
    AtRest (startCurrentStep answers left engine) := by
  induction left generalizing engine with
  | nil =>
    have all : engine.nextStep = engine.script.length :=
      Nat.le_antisymm inside (List.drop_eq_nil_iff.mp rest)
    refine ⟨?_, EngineState.noConfusion⟩
    change (phase engine.log).bind _ = _
    rw [due]
    exact if_pos ⟨all, rfl⟩
  | cons procedure left ih =>
    have more : engine.nextStep < engine.script.length := by
      by_contra past
      rw [List.drop_of_length_le (Nat.not_lt.mp past)] at rest
      contradiction
    rw [List.drop_eq_getElem_cons more] at rest
    obtain ⟨here, rest⟩ := List.cons.inj rest
    have running : phase (.started engine.nextStep procedure :: engine.log) =
        some (.running engine.proc engine.script engine.nextStep) := by
      rw [phase, due]
      exact if_pos ⟨rfl, List.getElem?_eq_some_iff.mpr ⟨more, here⟩⟩
    rw [startCurrentStep]
    dsimp only
    cases answers engine.nextStep with
    | none =>
      refine ⟨running.trans ?_, fun _ => more⟩
      simp only [Engine.note, active]
    | some result =>
      cases result with
      | success => exact ih active (phase_reported running .success) rest more
      | timeout => exact finish_atRest (phase_reported running .timeout)
      | failed => exact finish_atRest (phase_reported running .failed)

theorem procCompleteCfm_atRest (atRest : AtRest engine) :
    AtRest (procCompleteCfm engine result answers) := by
  unfold procCompleteCfm
  split
  next active =>
    have running := atRest.phase
    rw [active] at running
    cases result with
    | success =>
      apply startCurrentStep_atRest
      · exact active
      · exact phase_reported running .success
      · rfl
      · exact atRest.inside active
    | timeout => exact finish_atRest (phase_reported running .timeout)
    | failed => exact finish_atRest (phase_reported running .failed)
  next => exact atRest

theorem procCancelCfm_atRest (atRest : AtRest engine) (cancelling : engine.state = .cancelling) :
    ∃ next, procCancelCfm engine result = some next ∧ AtRest next := by
  have phase_eq := atRest.phase
  rw [cancelling] at phase_eq
  refine ⟨_, if_pos cancelling, finish_atRest ?_⟩
  change (phase engine.log).bind _ = _
  rw [phase_eq]
  rfl

theorem handle_atRest (atRest : AtRest engine) {event : Event}
    (permitted : Permitted engine event) :
    ∃ next, handle engine event = some next ∧ AtRest next := by
  have phase_eq := atRest.phase
  cases event with
  | startScript client script proc answers =>
    have idle : engine.state = .idle := permitted
    rw [idle] at phase_eq
    refine ⟨_, if_pos idle, startCurrentStep_atRest rfl ?_ rfl (Nat.zero_le _)⟩
    change (phase engine.log).bind _ = _
    rw [phase_eq]
    rfl
  | completed result answers => exact ⟨_, rfl, procCompleteCfm_atRest atRest⟩
  | cancelScript client completes confirms =>
    have asked : engine.scriptClient = client := permitted
    rw [handle, if_neg (not_not.mpr asked)]
    by_cases active : engine.state = .active
    · rw [if_neg (not_not.mpr active)]
      rw [active] at phase_eq
      have cancelling : AtRest { engine.note .cancelling with state := .cancelling } := by
        refine ⟨?_, EngineState.noConfusion⟩
        change (phase engine.log).bind _ = _
        rw [phase_eq]
        rfl
      have confirmed : ∀ next, AtRest next → next.state = .cancelling →
          ∃ last, confirms.elim (some next) (procCancelCfm next) = some last ∧ AtRest last := by
        intro next atRest state
        cases confirms with
        | none => exact ⟨next, rfl, atRest⟩
        | some result => exact procCancelCfm_atRest atRest state
      -- What completes while it is being cancelled is ignored.
      cases completes with
      | none => exact confirmed _ cancelling rfl
      | some result => exact confirmed _ cancelling rfl
    · rw [if_pos active]
      exact ⟨engine, rfl, atRest⟩
  | cancelled result => exact procCancelCfm_atRest atRest permitted

end Steps

/-- Each event that is permitted is handled, and leaves the engine at rest. -/
def EachRests : Engine → List Event → Prop
  | _, [] => True
  | engine, event :: events => Permitted engine event →
      ∃ next, handle engine event = some next ∧ AtRest next ∧ EachRests next events

end HeadsetAdk.ScriptEngine
