import Mathlib.Algebra.Group.Nat.Defs
import Mathlib.Data.List.Basic

/-!
# The state of charge

The entry of a voltage in the configuration table is searched for from the entry of the last
voltage, forwards or backwards, and from the start.
-/

namespace HeadsetAdk.StateOfCharge

/-- `soc_lookup_t` -/
structure Lookup where
  voltage : Nat
  percentage : Nat

structure Config where
  table : List Lookup
  batteryVoltageCritical : Nat
  batteryFullyCharged : Nat

def Config.clamp (config : Config) (batteryVoltage : Nat) : Nat :=
  if batteryVoltage < config.batteryVoltageCritical then config.batteryVoltageCritical
  else if config.batteryFullyCharged < batteryVoltage then config.batteryFullyCharged
  else batteryVoltage

section Searches

variable (table : List Lookup) (batteryVoltage : Nat)

/-- The search forwards, from an index with so many entries left.  There is no result when it
reads outside of the table. -/
def searchForward : (left index prevMv : Nat) → Option Nat
  | 0, _, _ => some (table.length - 1)
  | left + 1, index, thisMv =>
      table[index]?.bind fun entry =>
        if batteryVoltage < entry.voltage ∧ thisMv ≤ batteryVoltage then some (index - 1)
        else searchForward left (index + 1) entry.voltage

def searchBackward : (index prevMv : Nat) → Option Nat
  | 0, _ => some 0
  | index + 1, thisMv =>
      table[index]?.bind fun entry =>
        if batteryVoltage < thisMv ∧ entry.voltage ≤ batteryVoltage then some index
        else searchBackward index entry.voltage

/-- The loop of `soc_getIndex`, whose index has eight bits.  There is no result while it has not
ended. -/
def getIndexLoop : (fuel i prevMv : Nat) → Option Nat
  | 0, _, _ => none
  | fuel + 1, i, thisMv =>
      if i < table.length then
        table[i]?.bind fun entry =>
          if batteryVoltage < entry.voltage ∧ thisMv ≤ batteryVoltage then
            some ((i + 2 ^ 8 - 1) % 2 ^ 8)
          else getIndexLoop fuel ((i + 1) % 2 ^ 8) entry.voltage
      else some ((table.length - 1) % 2 ^ 8)

/-- `soc_getIndex` -/
def getIndex (fuel : Nat) : Option Nat :=
  table[0]?.bind fun entry => getIndexLoop table batteryVoltage fuel 1 entry.voltage

end Searches

/-- `soc_StateOfChargeUpdate`: the new `config_index`, which has eight bits -/
def stateOfChargeUpdate (config : Config) (configIndex batteryVoltage : Nat) : Option Nat :=
  config.table[configIndex]?.bind fun entry =>
    (if entry.voltage ≤ config.clamp batteryVoltage then
      searchForward config.table (config.clamp batteryVoltage)
        (config.table.length - (configIndex + 1)) (configIndex + 1) entry.voltage
    else searchBackward config.table (config.clamp batteryVoltage) configIndex entry.voltage).map
      (· % 2 ^ 8)

structure Client where
  task : Nat
  /-- The last percentage sent to the client -/
  percent : Nat

structure SocData where
  stateOfCharge : Nat
  chargerConnected : Bool
  configIndex : Nat
  clientList : List Client

/-- `soc_ServiceClients`, with the tasks that are sent the percentage -/
def serviceClients (data : SocData) : SocData × List (Nat × Nat) :=
  ({ data with
      clientList := data.clientList.map fun client =>
        { client with percent := data.stateOfCharge % 2 ^ 8 } },
    (data.clientList.filter (·.percent ≠ data.stateOfCharge % 2 ^ 8)).map fun client =>
      (client.task, data.stateOfCharge % 2 ^ 8))

inductive Event
  | levelUpdateVoltage (voltageMv : Nat)
  | chargerAttached
  | chargerDetached

/-- The second half of `soc_HandleMessage`.  The check of the hash of an upgrade blocks it. -/
def report (config : Config) (hashChecking : Bool) (data : SocData) :
    Option (SocData × List (Nat × Nat)) :=
  config.table[data.configIndex]?.map fun entry =>
    if (if data.chargerConnected then entry.percentage ≠ data.stateOfCharge % 2 ^ 8
        else entry.percentage < data.stateOfCharge % 2 ^ 8) ∧ hashChecking = false then
      serviceClients { data with stateOfCharge := entry.percentage }
    else (data, [])

/-- `soc_HandleMessage` -/
def handleMessage (config : Config) (hashChecking : Bool) (data : SocData) :
    Event → Option (SocData × List (Nat × Nat))
  | .levelUpdateVoltage voltageMv =>
      (stateOfChargeUpdate config data.configIndex voltageMv).bind fun index =>
        report config hashChecking { data with configIndex := index }
  | .chargerAttached => report config hashChecking { data with chargerConnected := true }
  | .chargerDetached => report config hashChecking { data with chargerConnected := false }

/-- The last entry whose voltage does not exceed the given one, or the first entry -/
structure EntryOf (table : List Lookup) (batteryVoltage index : Nat) : Prop where
  inside : index < table.length
  reached : index ≠ 0 → ∀ entry ∈ table[index]?, entry.voltage ≤ batteryVoltage
  last : ∀ other, index < other → ∀ entry ∈ table[other]?, batteryVoltage < entry.voltage

abbrev Increasing (table : List Lookup) : Prop := table.Pairwise (·.voltage < ·.voltage)

/-- The voltage is not below the whole table, and reached by an index of eight bits. -/
def Readable (table : List Lookup) (batteryVoltage : Nat) : Prop :=
  table.length = 1 ∨ (∀ entry ∈ table[0]?, entry.voltage ≤ batteryVoltage) ∧
    ∀ entry ∈ table[2 ^ 8 - 1]?, batteryVoltage < entry.voltage

section Specs

variable {table : List Lookup} {batteryVoltage index other : Nat} {entry later : Lookup}

section

variable (increasing : Increasing table)

include increasing

theorem Increasing.le (before : index ≤ other) (here : table[index]? = some entry)
    (there : table[other]? = some later) : entry.voltage ≤ later.voltage := by
  obtain ⟨inside, rfl⟩ := List.getElem?_eq_some_iff.mp here
  obtain ⟨inside', rfl⟩ := List.getElem?_eq_some_iff.mp there
  rcases Nat.eq_or_lt_of_le before with rfl | less
  · exact Nat.le_refl _
  · exact Nat.le_of_lt (List.pairwise_iff_getElem.mp increasing _ _ inside inside' less)

section

variable (here : table[index]? = some entry)

include here

theorem EntryOf.of_next (reached : index ≠ 0 → entry.voltage ≤ batteryVoltage)
    (next : ∀ later ∈ table[index + 1]?, batteryVoltage < later.voltage) :
    EntryOf table batteryVoltage index := by
  refine ⟨(List.getElem?_eq_some_iff.mp here).1, fun some found present => ?_,
    fun other after found present => ?_⟩
  · cases here.symm.trans present
    exact reached some
  · obtain ⟨inside, -⟩ := List.getElem?_eq_some_iff.mp present
    have between : table[index + 1]? = some table[index + 1] := List.getElem?_eq_getElem _
    exact Nat.lt_of_lt_of_le (next _ between) (increasing.le after between present)

theorem searchForward_spec {left : Nat} (reached : entry.voltage ≤ batteryVoltage)
    (whole : index + 1 + left = table.length) :
    ∃ found, searchForward table batteryVoltage left (index + 1) entry.voltage = some found ∧
      EntryOf table batteryVoltage found := by
  induction left generalizing index entry with
  | zero =>
    have last : table.length - 1 = index := by omega
    refine ⟨index, congrArg some last, .of_next increasing here (fun _ => reached) ?_⟩
    rw [List.getElem?_eq_none (by omega)]
    simp
  | succ left ih =>
    have next : table[index + 1]? = some table[index + 1] := List.getElem?_eq_getElem _
    rw [searchForward, next, Option.bind_some]
    split
    next between =>
      refine ⟨index, rfl, .of_next increasing here (fun _ => reached) fun later present => ?_⟩
      cases next.symm.trans present
      exact between.1
    next beyond => exact ih next (by omega) (by omega)

theorem searchBackward_spec (less : batteryVoltage < entry.voltage) :
    ∃ found, searchBackward table batteryVoltage index entry.voltage = some found ∧
      EntryOf table batteryVoltage found := by
  induction index generalizing entry with
  | zero =>
    refine ⟨0, rfl, .of_next increasing here (fun some => absurd rfl some) fun later present => ?_⟩
    exact Nat.lt_of_lt_of_le less (increasing.le (Nat.zero_le 1) here present)
  | succ index ih =>
    obtain ⟨inside, -⟩ := List.getElem?_eq_some_iff.mp here
    have back : table[index]? = some table[index] := List.getElem?_eq_getElem _
    rw [searchBackward, back, Option.bind_some]
    split
    next between =>
      refine ⟨index, rfl, .of_next increasing back (fun _ => between.2) fun later present => ?_⟩
      cases here.symm.trans present
      exact less
    next below => exact ih back (by omega)

end

end

theorem stateOfChargeUpdate_spec {config : Config} (increasing : Increasing config.table)
    (inside : index < config.table.length) :
    ∃ found, stateOfChargeUpdate config index batteryVoltage = some (found % 2 ^ 8) ∧
      EntryOf config.table (config.clamp batteryVoltage) found := by
  have here : config.table[index]? = some config.table[index] := List.getElem?_eq_getElem _
  rw [stateOfChargeUpdate, here, Option.bind_some]
  split
  next reached =>
    obtain ⟨found, searched, entryOf⟩ := searchForward_spec increasing here reached
      (show index + 1 + (config.table.length - (index + 1)) = _ by omega)
    exact ⟨found, by rw [searched, Option.map_some], entryOf⟩
  next below =>
    obtain ⟨found, searched, entryOf⟩ := searchBackward_spec increasing here (Nat.not_le.mp below)
    exact ⟨found, by rw [searched, Option.map_some], entryOf⟩

theorem getIndexLoop_finds (increasing : Increasing table) {found steps : Nat}
    (entryOf : EntryOf table batteryVoltage found)
    (narrow : found < 2 ^ 8 - 1)
    (here : table[index]? = some entry) (reached : entry.voltage ≤ batteryVoltage)
    (ahead : index + steps = found) :
    getIndexLoop table batteryVoltage (steps + 1) (index + 1) entry.voltage = some found := by
  have inside := entryOf.inside
  induction steps generalizing index entry with
  | zero =>
    rw [getIndexLoop]
    split
    next more =>
      have next := List.getElem?_eq_getElem more
      rw [next, Option.bind_some, if_pos ⟨entryOf.last _ (by omega) _ next, reached⟩]
      exact congrArg some (by omega)
    next => exact congrArg some (by omega)
  | succ steps ih =>
    have next : table[index + 1]? = some table[index + 1] := List.getElem?_eq_getElem _
    have there : table[found]? = some table[found] := List.getElem?_eq_getElem _
    have reached' := Nat.le_trans (increasing.le (by omega) next there)
      (entryOf.reached (by omega) _ there)
    rw [getIndexLoop, if_pos (by omega), next, Option.bind_some,
      if_neg fun both => absurd reached' (Nat.not_le.mpr both.1), Nat.mod_eq_of_lt (by omega)]
    exact ih next reached' (by omega)

theorem EntryOf.narrow (entryOf : EntryOf table batteryVoltage index)
    (increasing : Increasing table) (readable : Readable table batteryVoltage) :
    index < 2 ^ 8 - 1 := by
  have inside := entryOf.inside
  rcases readable with single | ⟨-, byEight⟩
  · omega
  · by_contra wide
    have last : table[2 ^ 8 - 1]? = some table[2 ^ 8 - 1] := List.getElem?_eq_getElem _
    have here := List.getElem?_eq_getElem inside
    have reached := entryOf.reached (by omega) _ here
    have below := increasing.le (Nat.not_lt.mp wide) last here
    exact absurd (byEight _ last) (Nat.not_lt.mpr (Nat.le_trans below reached))

theorem getIndex_finds (increasing : Increasing table)
    (entryOf : EntryOf table batteryVoltage index) (readable : Readable table batteryVoltage) :
    ∃ fuel, getIndex table batteryVoltage fuel = some index := by
  have inside := entryOf.inside
  have narrow := entryOf.narrow increasing readable
  have first : table[0]? = some table[0] := List.getElem?_eq_getElem _
  simp only [getIndex, first, Option.bind_some]
  rcases readable with single | ⟨reached, -⟩
  · exact ⟨1, by rw [getIndexLoop, if_neg (by omega)]; exact congrArg some (by omega)⟩
  · exact ⟨index + 1, getIndexLoop_finds increasing entryOf narrow first (reached _ first)
      (Nat.zero_add index)⟩

end Specs

/-- What one message does -/
structure Follows (config : Config) (data : SocData) (event : Event) (next : SocData)
    (sent : List (Nat × Nat)) : Prop where
  inside : next.configIndex < config.table.length
  looked : ∀ voltageMv, event = .levelUpdateVoltage voltageMv →
    EntryOf config.table (config.clamp voltageMv) next.configIndex ∧
      ∃ fuel, getIndex config.table (config.clamp voltageMv) fuel = some next.configIndex
  falls : next.chargerConnected = false → next.stateOfCharge ≤ data.stateOfCharge
  serviced : (next, sent) =
    if next.stateOfCharge = data.stateOfCharge then
      ({ next with clientList := data.clientList }, [])
    else serviceClients { next with clientList := data.clientList }

/-- Every message of a sequence does what it should, whether the hash is being checked or not. -/
def EachFollows (config : Config) : SocData → List (Bool × Event) → Prop
  | _, [] => True
  | data, (hashChecking, event) :: events =>
      ∃ next sent, handleMessage config hashChecking data event = some (next, sent) ∧
        Follows config data event next sent ∧ EachFollows config next events

section Runs

variable {config : Config} {data : SocData} {event : Event} {hashChecking : Bool} {index : Nat}

theorem report_follows (connected : Bool)
    (narrow : ∀ entry ∈ config.table, entry.percentage < 2 ^ 8)
    (inside : index < config.table.length)
    (looked : ∀ voltageMv, event = .levelUpdateVoltage voltageMv →
      EntryOf config.table (config.clamp voltageMv) index ∧
        ∃ fuel, getIndex config.table (config.clamp voltageMv) fuel = some index) :
    ∃ next sent, report config hashChecking
        { data with chargerConnected := connected, configIndex := index } = some (next, sent) ∧
      Follows config data event next sent := by
  have percentage := narrow _ (List.getElem_mem inside)
  rw [report, List.getElem?_eq_getElem inside, Option.map_some]
  dsimp only
  by_cases told : (if connected then
      (config.table[index]).percentage ≠ data.stateOfCharge % 2 ^ 8
    else (config.table[index]).percentage < data.stateOfCharge % 2 ^ 8) ∧ hashChecking = false
  · rw [if_pos told]
    refine ⟨_, _, rfl, inside, looked, fun off => ?_, (if_neg ?_).symm⟩
    · have less := told.1
      rw [show connected = false from off, if_neg Bool.false_ne_true] at less
      exact Nat.le_of_lt (Nat.lt_of_lt_of_le less (Nat.mod_le _ _))
    · have different := told.1
      change (config.table[index]).percentage ≠ data.stateOfCharge
      split at different <;> omega
  · rw [if_neg told]
    exact ⟨_, _, rfl, inside, looked, fun _ => Nat.le_refl _, (if_pos rfl).symm⟩

theorem handleMessage_follows (increasing : Increasing config.table)
    (narrow : ∀ entry ∈ config.table, entry.percentage < 2 ^ 8)
    (inside : data.configIndex < config.table.length)
    (readable : ∀ voltageMv, event = .levelUpdateVoltage voltageMv →
      Readable config.table (config.clamp voltageMv)) :
    ∃ next sent, handleMessage config hashChecking data event = some (next, sent) ∧
      Follows config data event next sent := by
  cases event with
  | levelUpdateVoltage voltageMv =>
    obtain ⟨found, updated, entryOf⟩ :=
      @stateOfChargeUpdate_spec voltageMv data.configIndex config increasing inside
    have readable := readable voltageMv rfl
    have byEight := entryOf.narrow increasing readable
    rw [Nat.mod_eq_of_lt (by omega)] at updated
    rw [handleMessage, updated, Option.bind_some]
    refine report_follows data.chargerConnected narrow entryOf.inside fun voltageMv' same => ?_
    cases same
    exact ⟨entryOf, getIndex_finds increasing entryOf readable⟩
  | chargerAttached =>
    exact report_follows true narrow inside fun _ same => Event.noConfusion same
  | chargerDetached =>
    exact report_follows false narrow inside fun _ same => Event.noConfusion same

/-- In every sequence of messages whose voltages are not below the whole table, both searches
find the entry of the voltage. -/
theorem eachFollows (config : Config) (increasing : Increasing config.table)
    (narrow : ∀ entry ∈ config.table, entry.percentage < 2 ^ 8) (events : List (Bool × Event))
    (readable : ∀ hashChecking voltageMv, (hashChecking, .levelUpdateVoltage voltageMv) ∈ events →
      Readable config.table (config.clamp voltageMv))
    (inside : data.configIndex < config.table.length) : EachFollows config data events := by
  induction events generalizing data with
  | nil => trivial
  | cons event events ih =>
    obtain ⟨hashChecking, event⟩ := event
    obtain ⟨next, sent, handled, follows⟩ :=
      @handleMessage_follows config data event hashChecking increasing narrow inside
        fun voltageMv same => readable hashChecking voltageMv (same ▸ List.mem_cons_self)
    exact ⟨next, sent, handled, follows, ih (fun hashChecking voltageMv member =>
      readable hashChecking voltageMv (List.mem_cons_of_mem _ member)) follows.inside⟩

/-- A table that begins above the critical voltage -/
def highTable : Config := ⟨[⟨3500, 0⟩, ⟨3900, 50⟩, ⟨4200, 100⟩], 3000, 4200⟩

theorem eachFollows_highTable :
    EachFollows highTable ⟨100, false, 2, [⟨1, 100⟩]⟩ [(false, .levelUpdateVoltage 3950)] :=
  eachFollows highTable (by decide) (by decide) _
    (fun _ voltageMv member => by
      cases List.mem_singleton.mp member
      exact .inr ⟨by decide, by decide⟩) (by decide)

/-- Below the whole table the search from the start falls through to the last entry. -/
theorem highTable_notEachFollows : ¬ ∀ (config : Config) (data : SocData)
    (events : List (Bool × Event)), Increasing config.table →
    (∀ entry ∈ config.table, entry.percentage < 2 ^ 8) →
    data.configIndex < config.table.length → EachFollows config data events := by
  intro all
  obtain ⟨next, sent, handled, follows, -⟩ := all highTable ⟨100, false, 2, [⟨1, 100⟩]⟩
    [(false, .levelUpdateVoltage 3200)] (by decide) (by decide) (by decide)
  obtain ⟨entryOf, fuel, found⟩ := follows.looked 3200 rfl
  have first : next.configIndex = 0 := by
    by_contra some
    have here := List.getElem?_eq_getElem entryOf.inside
    have all : ∀ entry ∈ highTable.table, ¬ entry.voltage ≤ highTable.clamp 3200 := by decide
    exact all _ (List.getElem_mem _) (entryOf.reached some _ here)
  rw [first] at found
  rcases fuel with _ | _ | _ | fuel
  iterate 3 exact absurd found (by decide)
  · exact absurd (show some 2 = some 0 from found) (by decide)

end Runs

end HeadsetAdk.StateOfCharge
