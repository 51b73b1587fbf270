import HeadsetAdk.Upgrade.Transfer

/-!
# The grammar of main headers

A main header has lists with their numbers.  Its length is compared with the one that the numbers
make, in sixteen bits.
-/

namespace HeadsetAdk.Upgrade

open Option (pure_def bind_some map_some)
open Option (some.inj)

namespace UpgradeCtx

variable {firmware : Firmware} {psKeys : LibPsKeys} {data : List UInt8}

def VariantMatches (firmware : Firmware) (data : List UInt8) : Prop :=
  firmware.deviceVariant.length > 0 → idField data = idField firmware.deviceVariant

/-- One of the versions is that of the device, or has its major number and any minor one. -/
def VersionListed (data : List UInt8) (version : Nat × Nat) (count place : Nat) : Prop :=
  ∃ index < count, get2Bytes data (place + 4 * index) = some version.1 ∧
    (get2Bytes data (place + 4 * index + 2) = some version.2 ∨
      get2Bytes data (place + 4 * index + 2) = some 0xFFFF)

def ConfigVersionListed (data : List UInt8) (configVersion count place : Nat) : Prop :=
  ∃ index < count, get2Bytes data (place + 2 * index) = some configVersion

/-- The main headers that the device can go by. -/
def Grammar (firmware : Firmware) (psKeys : LibPsKeys) (data : List UInt8) : Prop :=
  ∃ versions configVersions, get2Bytes data (idFieldSize + 4) = some versions ∧
    get2Bytes data (idFieldSize + 6 + 4 * versions + 2) = some configVersions ∧
    data.length = 20 + 4 * versions + 2 * configVersions ∧
    VariantMatches firmware data ∧
    VersionListed data psKeys.version versions (idFieldSize + 6) ∧
    (get2Bytes data (idFieldSize + 6 + 4 * versions) = some psKeys.configVersion ∨
      ConfigVersionListed data psKeys.configVersion configVersions
        (idFieldSize + 6 + 4 * versions + 4))

/-- The header is read within its bytes.  It is accepted just if it is one of the grammar, and if
it is refused the context stays as it is. -/
def ParsesGrammar (firmware : Firmware) (keyCache : List UInt8) (ctx : UpgradeCtx)
    (data : List UInt8) : Prop :=
  ∃ outcome, checkHeader firmware ctx.psKeys data = some outcome ∧
    ((∃ versions, outcome = .ok versions) ↔ Grammar firmware ctx.psKeys data) ∧
    ∀ code, outcome = .error code →
      ctx.handleHeaderState firmware keyCache data = some (code, ctx)

/-- The numbers of a header that the device would go by make a length that is more than sixteen
bits, and the same as that of the header in sixteen bits. -/
def LengthWraps (firmware : Firmware) (psKeys : LibPsKeys) (data : List UInt8) : Prop :=
  ∃ versions configVersions, get2Bytes data (idFieldSize + 4) = some versions ∧
    get2Bytes data (idFieldSize + 6 + 4 * versions + 2) = some configVersions ∧
    2 ^ 16 ≤ 20 + 4 * versions + 2 * configVersions ∧
    (20 + 4 * versions + 2 * configVersions) % 2 ^ 16 = data.length ∧
    VariantMatches firmware data ∧
    VersionListed data psKeys.version versions (idFieldSize + 6)

section Reading

variable {place count configVersion : Nat} {version : Nat × Nat}

theorem get2Bytes_of_inside (inside : place + 2 ≤ data.length) :
    ∃ value, get2Bytes data place = some value := by
  rw [get2Bytes, List.getElem?_eq_getElem (by omega : place < data.length),
    List.getElem?_eq_getElem (by omega : place + 1 < data.length)]
  exact ⟨_, rfl⟩

theorem inside_of_get2Bytes {value : Nat} (read : get2Bytes data place = some value) :
    place + 2 ≤ data.length := by
  by_contra outside
  rw [get2Bytes, List.getElem?_eq_none (by omega : data.length ≤ place + 1)] at read
  split at read
  · contradiction
  · contradiction

theorem versionListed_succ :
    VersionListed data version (count + 1) place ↔ (get2Bytes data place = some version.1 ∧
        (get2Bytes data (place + 2) = some version.2 ∨ get2Bytes data (place + 2) = some 0xFFFF)) ∨
      VersionListed data version count (place + 4) := by
  rw [VersionListed, Nat.exists_lt_succ_left, VersionListed, Nat.mul_zero, Nat.add_zero]
  refine or_congr_right (exists_congr fun index => and_congr_right fun _ => ?_)
  rw [Nat.mul_add, Nat.mul_one, Nat.add_comm (4 * index) 4, ← Nat.add_assoc]

theorem configVersionListed_succ :
    ConfigVersionListed data configVersion (count + 1) place ↔
      get2Bytes data place = some configVersion ∨
      ConfigVersionListed data configVersion count (place + 2) := by
  rw [ConfigVersionListed, Nat.exists_lt_succ_left, ConfigVersionListed, Nat.mul_zero, Nat.add_zero]
  refine or_congr_right (exists_congr fun index => and_congr_right fun _ => ?_)
  rw [Nat.mul_add, Nat.mul_one, Nat.add_comm (2 * index) 2, ← Nat.add_assoc]

theorem findVersion_spec (inside : place + 4 * count ≤ data.length) :
    ∃ found, findVersion data version count place = some found ∧
      (found = true ↔ VersionListed data version count place) := by
  induction count generalizing place with
  | zero =>
    refine ⟨false, rfl, fun wrong => absurd wrong Bool.false_ne_true, ?_⟩
    rintro ⟨index, wrong, _⟩
    exact absurd wrong (Nat.not_lt_zero index)
  | succ count ih =>
    obtain ⟨major, readMajor⟩ := get2Bytes_of_inside (by omega : place + 2 ≤ data.length)
    obtain ⟨minor, readMinor⟩ := get2Bytes_of_inside (by omega : place + 2 + 2 ≤ data.length)
    obtain ⟨found, ran, iff⟩ := @ih (place + 4) (by omega)
    rw [findVersion, readMajor, readMinor, versionListed_succ, readMajor, readMinor]
    simp only [Option.some.injEq]
    split
    case isTrue here => exact ⟨true, rfl, fun _ => .inl here, fun _ => rfl⟩
    case isFalse notHere =>
      exact ⟨found, ran, fun holds => .inr (iff.mp holds),
        fun either => iff.mpr (either.resolve_left notHere)⟩

theorem findConfigVersion_spec (inside : place + 2 * count ≤ data.length) :
    ∃ found, findConfigVersion data configVersion count place = some found ∧
      (found = true ↔ ConfigVersionListed data configVersion count place) := by
  induction count generalizing place with
  | zero =>
    refine ⟨false, rfl, fun wrong => absurd wrong Bool.false_ne_true, ?_⟩
    rintro ⟨index, wrong, _⟩
    exact absurd wrong (Nat.not_lt_zero index)
  | succ count ih =>
    obtain ⟨version, read⟩ := get2Bytes_of_inside (by omega : place + 2 ≤ data.length)
    obtain ⟨found, ran, iff⟩ := @ih (place + 2) (by omega)
    rw [findConfigVersion, read, configVersionListed_succ, read]
    simp only [Option.some.injEq]
    split
    case isTrue here => exact ⟨true, rfl, fun _ => .inl here, fun _ => rfl⟩
    case isFalse notHere =>
      exact ⟨found, ran, fun holds => .inr (iff.mp holds),
        fun either => iff.mpr (either.resolve_left notHere)⟩

theorem findConfigVersion_missed (missed : findConfigVersion data configVersion (count + 1) place =
    some false) : place + 2 * (count + 1) ≤ data.length := by
  induction count generalizing place with
  | zero =>
    rw [findConfigVersion] at missed
    split at missed
    case h_1 version read => exact inside_of_get2Bytes read
    case h_2 => contradiction
  | succ count ih =>
    rw [findConfigVersion] at missed
    split at missed
    case h_1 version read =>
      split at missed
      · contradiction
      · have later := ih missed
        omega
    case h_2 => contradiction

end Reading

section Checking

variable {keyCache : List UInt8} {ctx : UpgradeCtx} {code : HostErrorCode}

theorem ParsesGrammar.of_error (refused : checkHeader firmware ctx.psKeys data = some (.error code))
    (foreign : ¬ Grammar firmware ctx.psKeys data) : ParsesGrammar firmware keyCache ctx data := by
  refine ⟨_, refused, ⟨?_, fun wrong => absurd wrong foreign⟩, ?_⟩
  · rintro ⟨versions, wrong⟩
    contradiction
  · intro other same
    rw [handleHeaderState, refused, Except.error.inj same]

theorem ParsesGrammar.of_ok {versions : (Nat × Nat) × Nat}
    (accepted : checkHeader firmware ctx.psKeys data = some (.ok versions))
    (grammar : Grammar firmware ctx.psKeys data) : ParsesGrammar firmware keyCache ctx data := by
  refine ⟨_, accepted, ⟨fun _ => grammar, fun _ => ⟨versions, rfl⟩⟩, ?_⟩
  intro code wrong
  contradiction

/-- The length is not the one that the numbers of a header make in sixteen bits. -/
def WrongLength (data : List UInt8) : Prop :=
  data.length < idFieldSize + 4 + 2 ∨
    ∃ versions, get2Bytes data (idFieldSize + 4) = some versions ∧
      (data.length < idFieldSize + 6 + 4 * versions + 2 + 2 ∨
        ∃ configVersions,
          get2Bytes data (idFieldSize + 6 + 4 * versions + 2) = some configVersions ∧
          data.length ≠ (20 + 4 * versions + 2 * configVersions) % 2 ^ 16)

theorem checkHeader_early (early : WrongLength data ∨ ¬ VariantMatches firmware data) :
    ∃ code, checkHeader firmware psKeys data = some (.error code) := by
  rw [checkHeader]
  simp only [Option.bind_eq_bind, pure_def]
  by_cases short : data.length < idFieldSize + 4 + 2
  · rw [if_pos short]
    exact ⟨_, rfl⟩
  rw [if_neg short]
  by_cases variant : firmware.deviceVariant.length > 0 ∧
      idField data ≠ idField firmware.deviceVariant
  · rw [if_pos variant]
    exact ⟨_, rfl⟩
  rw [if_neg variant]
  have matching : VariantMatches firmware data := fun some => by
    by_contra other
    exact variant ⟨some, other⟩
  have wrongLength := early.resolve_right (not_not.mpr matching)
  obtain ⟨versions, readVersions, wrongLength⟩ := wrongLength.resolve_left short
  rw [idFieldSize] at short
  obtain ⟨major, readMajor⟩ := get2Bytes_of_inside (by
    rw [idFieldSize]; omega : idFieldSize + 2 ≤ data.length)
  obtain ⟨minor, readMinor⟩ := get2Bytes_of_inside (by
    rw [idFieldSize]; omega : idFieldSize + 2 + 2 ≤ data.length)
  rw [readMajor, readMinor, readVersions, bind_some, bind_some, bind_some]
  by_cases cut : data.length < idFieldSize + 6 + 4 * versions + 2 + 2
  · rw [if_pos cut]
    exact ⟨_, rfl⟩
  obtain ⟨configVersions, readConfigVersions, differs⟩ := wrongLength.resolve_left cut
  have differs' : data.length ≠ (idFieldSize + 4 + 2 + 4 * versions + 4 + 2 * configVersions +
      2) % 2 ^ 16 := by
    rw [idFieldSize]
    omega
  rw [if_neg cut, readConfigVersions, bind_some, if_pos differs']
  exact ⟨_, rfl⟩

theorem numbers_of_length (right : ¬ WrongLength data) :
    ∃ versions configVersions, get2Bytes data (idFieldSize + 4) = some versions ∧
      get2Bytes data (idFieldSize + 6 + 4 * versions + 2) = some configVersions ∧
      data.length = (20 + 4 * versions + 2 * configVersions) % 2 ^ 16 := by
  rw [WrongLength, not_or, Nat.not_lt] at right
  obtain ⟨enough, right⟩ := right
  obtain ⟨versions, readVersions⟩ := get2Bytes_of_inside enough
  by_cases cut : data.length < idFieldSize + 6 + 4 * versions + 2 + 2
  · exact absurd ⟨versions, readVersions, .inl cut⟩ right
  obtain ⟨configVersions, readConfigVersions⟩ := get2Bytes_of_inside (Nat.not_lt.mp cut)
  refine ⟨versions, configVersions, readVersions, readConfigVersions, ?_⟩
  by_contra differs
  exact right ⟨versions, readVersions, .inr ⟨configVersions, readConfigVersions, differs⟩⟩

theorem foreign_of_early (short : data.length < 2 ^ 16)
    (early : WrongLength data ∨ ¬ VariantMatches firmware data) :
    ¬ Grammar firmware psKeys data ∧ ¬ LengthWraps firmware psKeys data := by
  have refuse {versions configVersions : Nat}
      (readVersions : get2Bytes data (idFieldSize + 4) = some versions)
      (readConfigVersions :
        get2Bytes data (idFieldSize + 6 + 4 * versions + 2) = some configVersions)
      (length : (20 + 4 * versions + 2 * configVersions) % 2 ^ 16 = data.length)
      (variant : VariantMatches firmware data) : False := by
    rcases early with (tooShort | ⟨versions', readVersions', wrong⟩) | other
    · have inside := inside_of_get2Bytes readVersions
      omega
    · obtain rfl := some.inj (readVersions.symm.trans readVersions')
      rcases wrong with cut | ⟨configVersions', readConfigVersions', differs⟩
      · have inside := inside_of_get2Bytes readConfigVersions
        omega
      · obtain rfl := some.inj (readConfigVersions.symm.trans readConfigVersions')
        exact differs length.symm
    · exact other variant
  constructor
  · rintro ⟨versions, configVersions, readVersions, readConfigVersions, length, variant, _⟩
    refine refuse readVersions readConfigVersions ?_ variant
    rw [← length]
    exact Nat.mod_eq_of_lt short
  · rintro ⟨versions, configVersions, readVersions, readConfigVersions, _, length, variant, _⟩
    exact refuse readVersions readConfigVersions length variant

variable {versions configVersions : Nat}

section

variable {versions configVersions : Nat}
  (readVersions : get2Bytes data (idFieldSize + 4) = some versions)
  (readConfigVersions : get2Bytes data (idFieldSize + 6 + 4 * versions + 2) = some configVersions)

include readVersions readConfigVersions

theorem checkHeader_lists {newPSVersion : Nat}
    (readPSVersion : get2Bytes data (idFieldSize + 6 + 4 * versions) = some newPSVersion)
    (variant : VariantMatches firmware data)
    (length : data.length = (20 + 4 * versions + 2 * configVersions) % 2 ^ 16) {found : Bool}
    (search : findVersion data psKeys.version versions (idFieldSize + 6) = some found) :
    ∃ headerVersions, checkHeader firmware psKeys data =
      if found = false then some (.error .warnAppConfigVersionIncompatible)
      else if psKeys.configVersion = newPSVersion then some (.ok headerVersions)
      else
        (findConfigVersion data psKeys.configVersion configVersions
          (idFieldSize + 6 + 4 * versions + 4)).map fun found =>
            if found = false then .error .warnAppConfigVersionIncompatible
            else .ok headerVersions := by
  have inside := inside_of_get2Bytes readConfigVersions
  rw [idFieldSize] at inside
  obtain ⟨major, readMajor⟩ := get2Bytes_of_inside (by
    rw [idFieldSize]; omega : idFieldSize + 2 ≤ data.length)
  obtain ⟨minor, readMinor⟩ := get2Bytes_of_inside (by
    rw [idFieldSize]; omega : idFieldSize + 2 + 2 ≤ data.length)
  refine ⟨((major, minor), newPSVersion), ?_⟩
  have notShort : ¬ data.length < idFieldSize + 4 + 2 := by
    rw [idFieldSize]
    omega
  have sameVariant : ¬ (firmware.deviceVariant.length > 0 ∧
      idField data ≠ idField firmware.deviceVariant) :=
    fun wrong => wrong.2 (variant wrong.1)
  have notCut : ¬ data.length < idFieldSize + 6 + 4 * versions + 2 + 2 := by
    rw [idFieldSize]
    omega
  have sameLength : ¬ data.length ≠ (idFieldSize + 4 + 2 + 4 * versions + 4 + 2 * configVersions +
      2) % 2 ^ 16 := by
    rw [not_not, length, idFieldSize]
    omega
  rw [checkHeader]
  simp only [Option.bind_eq_bind, pure_def]
  rw [if_neg notShort, if_neg sameVariant, readMajor, readMinor, readVersions, bind_some,
    bind_some, bind_some, if_neg notCut, readConfigVersions, bind_some,
    if_neg sameLength, search, bind_some, readPSVersion]
  by_cases incompatible : found = false
  · rw [if_pos incompatible, if_pos incompatible]
  rw [if_neg incompatible, if_neg incompatible, bind_some]
  by_cases same : psKeys.configVersion = newPSVersion
  · rw [if_pos same, if_neg (not_not.mpr same)]
  rw [if_neg same, if_pos same]
  cases findConfigVersion data psKeys.configVersion configVersions
      (idFieldSize + 6 + 4 * versions + 4) with
  | none => rfl
  | some compatible =>
    rw [bind_some, map_some]
    split <;> rfl

theorem grammar_iff :
    Grammar firmware psKeys data ↔
      data.length = 20 + 4 * versions + 2 * configVersions ∧ VariantMatches firmware data ∧
      VersionListed data psKeys.version versions (idFieldSize + 6) ∧
      (get2Bytes data (idFieldSize + 6 + 4 * versions) = some psKeys.configVersion ∨
        ConfigVersionListed data psKeys.configVersion configVersions
          (idFieldSize + 6 + 4 * versions + 4)) := by
  constructor
  · rintro ⟨versions', configVersions', readVersions', readConfigVersions', grammar⟩
    obtain rfl := some.inj (readVersions.symm.trans readVersions')
    obtain rfl := some.inj (readConfigVersions.symm.trans readConfigVersions')
    exact grammar
  · exact fun grammar => ⟨versions, configVersions, readVersions, readConfigVersions, grammar⟩

theorem lengthWraps_iff (variant : VariantMatches firmware data)
    (length : data.length = (20 + 4 * versions + 2 * configVersions) % 2 ^ 16) :
    LengthWraps firmware psKeys data ↔ 2 ^ 16 ≤ 20 + 4 * versions + 2 * configVersions ∧
      VersionListed data psKeys.version versions (idFieldSize + 6) := by
  constructor
  · rintro ⟨versions', configVersions', readVersions', readConfigVersions', wraps, _, _, listed⟩
    obtain rfl := some.inj (readVersions.symm.trans readVersions')
    obtain rfl := some.inj (readConfigVersions.symm.trans readConfigVersions')
    exact ⟨wraps, listed⟩
  · rintro ⟨wraps, listed⟩
    exact ⟨versions, configVersions, readVersions, readConfigVersions, wraps, length.symm, variant,
      listed⟩

end

/-- A header is parsed by its grammar if and only if it is not one whose length wraps. -/
theorem parsesGrammar_iff (short : data.length < 2 ^ 16) :
    ParsesGrammar firmware keyCache ctx data ↔ ¬ LengthWraps firmware ctx.psKeys data := by
  by_cases early : WrongLength data ∨ ¬ VariantMatches firmware data
  · obtain ⟨code, refused⟩ := checkHeader_early early
    obtain ⟨foreign, notWraps⟩ := foreign_of_early short early
    exact ⟨fun _ => notWraps, fun _ => .of_error refused foreign⟩
  rw [not_or, not_not] at early
  obtain ⟨right, variant⟩ := early
  obtain ⟨versions, configVersions, readVersions, readConfigVersions, length⟩ :=
    numbers_of_length right
  have inside := inside_of_get2Bytes readConfigVersions
  obtain ⟨newPSVersion, readPSVersion⟩ := get2Bytes_of_inside
    (by omega : idFieldSize + 6 + 4 * versions + 2 ≤ data.length)
  obtain ⟨found, search, foundIff⟩ := @findVersion_spec _ (idFieldSize + 6) versions
    ctx.psKeys.version (by omega : idFieldSize + 6 + 4 * versions ≤ data.length)
  obtain ⟨headerVersions, checked⟩ := checkHeader_lists readVersions readConfigVersions
    readPSVersion variant length search
  rw [lengthWraps_iff readVersions readConfigVersions variant length]
  cases found with
  | false =>
    rw [if_pos rfl] at checked
    have notListed := fun listed => Bool.false_ne_true (foundIff.mpr listed)
    refine ⟨fun _ wraps => notListed wraps.2, fun _ => .of_error checked ?_⟩
    rw [grammar_iff readVersions readConfigVersions]
    exact fun grammar => notListed grammar.2.2.1
  | true =>
    have listed := foundIff.mp rfl
    rw [if_neg (by decide)] at checked
    rw [idFieldSize] at inside
    by_cases wraps : 2 ^ 16 ≤ 20 + 4 * versions + 2 * configVersions
    · refine ⟨fun parses => ?_, fun notWraps => absurd ⟨wraps, listed⟩ notWraps⟩
      obtain ⟨outcome, checked', accepts, _⟩ := parses
      rw [grammar_iff readVersions readConfigVersions] at accepts
      have foreign : ¬ ∃ versions, outcome = .ok versions := fun accepted => by
        have whole := (accepts.mp accepted).1
        omega
      rw [checked] at checked'
      split at checked'
      · exact absurd ⟨_, (some.inj checked').symm⟩ foreign
      obtain ⟨found, searched, rfl⟩ := Option.map_eq_some_iff.mp checked'
      cases found with
      | true => exact absurd ⟨headerVersions, rfl⟩ foreign
      | false =>
        have some : configVersions = configVersions - 1 + 1 := by omega
        rw [some] at searched
        have later := findConfigVersion_missed searched
        rw [idFieldSize] at later
        omega
    · refine ⟨fun _ wrong => wraps wrong.1, fun _ => ?_⟩
      rw [Nat.mod_eq_of_lt (Nat.not_le.mp wraps)] at length
      have grammarIff := @grammar_iff firmware ctx.psKeys data _ _ readVersions readConfigVersions
      rw [readPSVersion, Option.some.injEq] at grammarIff
      obtain ⟨found, searched, foundIff'⟩ := @findConfigVersion_spec data
        (idFieldSize + 6 + 4 * versions + 4) configVersions ctx.psKeys.configVersion
        (by rw [idFieldSize]; omega)
      rw [searched, map_some] at checked
      by_cases same : ctx.psKeys.configVersion = newPSVersion
      · rw [if_pos same] at checked
        exact .of_ok checked (grammarIff.mpr ⟨length, variant, listed, .inl same.symm⟩)
      rw [if_neg same] at checked
      cases found with
      | true =>
        exact .of_ok checked
          (grammarIff.mpr ⟨length, variant, listed, .inr (foundIff'.mp rfl)⟩)
      | false =>
        refine .of_error checked fun grammar => ?_
        rcases (grammarIff.mp grammar).2.2.2 with equal | inList
        · exact same equal.symm
        · exact Bool.false_ne_true (foundIff'.mpr inList)

end Checking

/-- A header for version 2.0, with as many configuration versions as its last bytes say. -/
private def headerFor (behind : List UInt8) : List UInt8 :=
  List.replicate 8 0 ++ [0, 2, 0, 0] ++ [0, 1] ++ [0, 1, 0, 0] ++ [0, 0] ++ behind

theorem oneVersion_parsesGrammar :
    ParsesGrammar plainFirmware (List.replicate 64 0) plainDevice (headerFor [0, 0, 0, 0]) := by
  refine (parsesGrammar_iff (by decide)).mpr ?_
  rintro ⟨versions, configVersions, readVersions, readConfigVersions, wraps, _⟩
  have oneVersion : get2Bytes (headerFor [0, 0, 0, 0]) (idFieldSize + 4) = some 1 := by decide
  obtain rfl := some.inj (oneVersion.symm.trans readVersions)
  have noConfigVersion :
      get2Bytes (headerFor [0, 0, 0, 0]) (idFieldSize + 6 + 4 * 1 + 2) = some 0 := by decide
  obtain rfl := some.inj (noConfigVersion.symm.trans readConfigVersions)
  exact absurd wraps (by decide)

/-- A header that has the number of 32767 configuration versions, and nothing behind it, is
accepted. -/
theorem manyConfigVersions_accepted :
    ¬ ParsesGrammar plainFirmware (List.replicate 64 0) plainDevice (headerFor [0x7F, 0xFF]) := by
  rintro ⟨outcome, checked, accepts, _⟩
  have accepted : ((checkHeader plainFirmware plainDevice.psKeys
      (headerFor [0x7F, 0xFF])).bind Except.toOption).isSome = true := by
    decide +kernel
  rw [checked, bind_some] at accepted
  obtain ⟨versions, configVersions, readVersions, _, length, _⟩ := accepts.mp (by
    cases outcome with
    | ok versions => exact ⟨versions, rfl⟩
    | error code => contradiction)
  have oneVersion : get2Bytes (headerFor [0x7F, 0xFF]) (idFieldSize + 4) = some 1 := by decide
  obtain rfl := some.inj (oneVersion.symm.trans readVersions)
  have size : (headerFor [0x7F, 0xFF]).length = 22 := rfl
  omega

end UpgradeCtx

end HeadsetAdk.Upgrade
