import HeadsetAdk.BtDevice.RoundTrip

/-!
# Records of earlier versions

What an earlier version wrote is the list of fields as it is now, cut behind the last group that
the version knew, and the end tag.  With a length that ends in that group, each property of the
record is restored and the later ones get their defaults, whatever stands behind the fields.
-/

namespace HeadsetAdk.BtDevice

variable (config : Config) (data : Pdd) (behind : List UInt8)

/-- The position behind the fields of this many groups of `deser_fns` -/
def recordEnd (versions : Nat) : Nat :=
  ((deserFns config).take versions).foldl (fun index version => index + version.size) 22

def earlierRecord (versions : Nat) : List UInt8 :=
  (serialisePddu data).take (recordEnd config versions) ++ behind

/-- What the record of an earlier version says; the rest of the zeroed data stays zero. -/
def Pdd.upTo (versions : Nat) : Pdd :=
  { data with
    supportedProfiles := if 1 ≤ versions then data.supportedProfiles else 0
    lastConnectedProfiles := if 1 ≤ versions then data.lastConnectedProfiles else 0
    hfpVolume := if 2 ≤ versions then data.hfpVolume else 0
    hfpMicGain := if 2 ≤ versions then data.hfpMicGain else 0
    vaFlags := if 3 ≤ versions then data.vaFlags else 0
    vaLocale := if 3 ≤ versions then data.vaLocale else ⟨0, 0, 0, 0⟩
    handsetServiceConfig := if 4 ≤ versions then data.handsetServiceConfig else 0
    analogAudioVolume := if 4 ≤ versions then data.analogAudioVolume else 0
    handsetAccountKeyIndex := if 5 ≤ versions then data.handsetAccountKeyIndex else 0
    sassSwitchDisabled := if 5 ≤ versions then data.sassSwitchDisabled else 0
    gsdCompleted := if 5 ≤ versions then data.gsdCompleted else 0 }

def upgraded (versions : Nat) : Pdd :=
  ((deserFns config).drop versions).foldl (fun data version => version.setDefaults data)
    (data.upTo versions)

/-- The length without the end tag ends in the last group of the record: not before its end,
if it is checked for, nor at the end of the next. -/
structure LengthOf (versions length : Nat) : Prop where
  reached : 0 < versions → recordEnd config versions ≤ (length + 255) % 256
  passed : versions < (deserFns config).length →
    (length + 255) % 256 < recordEnd config (versions + 1)

variable {config} {version : DeserFns}

theorem recordEnd_succ {index : Nat} (known : (deserFns config)[index]? = some version) :
    recordEnd config (index + 1) = recordEnd config index + version.size := by
  rw [recordEnd, List.take_add_one, known, List.foldl_append]
  rfl

theorem recordEnd_mono : Monotone (recordEnd config) := by
  refine monotone_nat_of_le_succ fun index => ?_
  cases known : (deserFns config)[index]? with
  | none =>
    have beyond := List.getElem?_eq_none_iff.mp known
    rw [recordEnd, recordEnd, List.take_of_length_le beyond,
      List.take_of_length_le (Nat.le_succ_of_le beyond)]
  | some version =>
    rw [recordEnd_succ known]
    exact Nat.le_add_right _ _

variable (config)

theorem loadFirst_earlier (versions : Nat) :
    loadFirst (earlierRecord config data behind versions) 1 Pdd.zero =
      some (data.upTo 0, recordEnd config 0) := by
  have whole : loadFirst (serialisePddu data) 1 Pdd.zero =
      some (data.upTo 0, recordEnd config 0) := by
    rw [loadFirst_serialise]
    simp only [again16_eq]
    rfl
  rw [loadFirst_serialise] at whole
  have least : recordEnd config 0 ≤ recordEnd config versions := recordEnd_mono versions.zero_le
  obtain ⟨more, end_eq⟩ := Nat.exists_eq_add_of_le' least
  rw [earlierRecord, end_eq]
  exact whole

variable {config data behind} {index versions : Nat}

theorem load_step (known : (deserFns config)[index]? = some version)
    (within : recordEnd config (index + 1) ≤ recordEnd config versions) :
    version.loadProperties (earlierRecord config data behind versions)
        (recordEnd config index) (data.upTo index) =
      some (data.upTo (index + 1), recordEnd config (index + 1)) := by
  obtain ⟨more, end_eq⟩ := Nat.exists_eq_add_of_le' within
  rw [earlierRecord, end_eq]
  rcases index with _ | _ | _ | _ | _ | index
  all_goals cases known
  · exact (load202_serialise data _).trans (by simp only [again32_eq]; rfl)
  · exact load203_serialise data _
  · exact load2031_serialise config data _
  · exact (load211_serialise config data _).trans (by simp only [again32_eq]; rfl)
  · exact load222_serialise data _

theorem loadVersions_upgraded {dataLength : Nat} (before : index ≤ versions)
    (known : versions ≤ (deserFns config).length)
    (reached : index < versions → recordEnd config versions ≤ dataLength)
    (passed : versions < (deserFns config).length → dataLength < recordEnd config (versions + 1)) :
    loadVersions (earlierRecord config data behind versions) dataLength
        ((deserFns config).drop index) (recordEnd config index) (data.upTo index) =
      some (upgraded config data versions) := by
  obtain ⟨count, rfl⟩ := Nat.exists_eq_add_of_le before
  induction count generalizing index with
  | zero =>
    rw [Nat.add_zero] at known passed ⊢
    rcases known.lt_or_eq with more | all
    · have short := passed more
      rw [recordEnd_succ (List.getElem?_eq_getElem more)] at short
      rw [upgraded, List.drop_eq_getElem_cons more, loadVersions, if_neg (Nat.not_le.mpr short)]
    · rw [upgraded, List.drop_of_length_le (Nat.le_of_eq all.symm)]
      rfl
  | succ count again =>
    have inside : index < (deserFns config).length := by omega
    have known_index := List.getElem?_eq_getElem inside
    have within : recordEnd config (index + 1) ≤ recordEnd config (index + (count + 1)) :=
      recordEnd_mono (by omega)
    have enough := within.trans (reached (by omega))
    rw [recordEnd_succ known_index] at enough
    rw [List.drop_eq_getElem_cons inside, loadVersions_load _ enough (load_step known_index within)]
    have rest : index + (count + 1) = index + 1 + count := by omega
    rw [rest] at known reached passed ⊢
    exact again (by omega) known (fun _ => reached (by omega)) passed

theorem size_pos (member : version ∈ deserFns config) : 0 < version.size := by
  simp only [deserFns, List.mem_cons, List.not_mem_nil, or_false] at member
  rcases member with rfl | rfl | rfl | rfl | rfl <;> exact Nat.succ_pos _

theorem lengthOf_own (known : versions ≤ (deserFns config).length) :
    LengthOf config versions (earlierRecord config data [0xff] versions).length := by
  have small : recordEnd config versions ≤ 45 := recordEnd_mono known
  have whole : (serialisePddu data).length = 46 := rfl
  have length : (earlierRecord config data [0xff] versions).length =
      recordEnd config versions + 1 := by
    rw [earlierRecord, List.length_append, List.length_take, whole, min_eq_left (by omega)]
    rfl
  have number : (recordEnd config versions + 1 + 255) % 256 = recordEnd config versions := by
    omega
  constructor <;> rw [length, number]
  · exact fun _ => Nat.le_refl _
  · intro more
    rw [recordEnd_succ (List.getElem?_eq_getElem more)]
    exact Nat.lt_add_of_pos_right (size_pos (List.getElem_mem more))

def earbud : Pdd := { Pdd.zero with type := deviceTypeEarbud }

/-- The properties of an earlier record are restored with its own length, or any other that ends
in its last group, and the later ones get their defaults. -/
theorem deserialise_earlier (config : Config) (data : Pdd) {versions : Nat}
    (known : versions ≤ (deserFns config).length) :
    LengthOf config versions (earlierRecord config data [0xff] versions).length ∧
      ∀ device behind length, LengthOf config versions length →
        deserialisePersistentDeviceData (earlierRecord config data behind versions) config
            device length =
          some (setDeviceData device (upgraded config data versions)) := by
  refine ⟨lengthOf_own known, fun device behind length ends => ?_⟩
  rw [deserialisePersistentDeviceData, deserialisePdd, loadFirst_earlier]
  exact congrArg (Option.map (setDeviceData device))
    (loadVersions_upgraded versions.zero_le known ends.reached ends.passed)

theorem deserialise_earlier_earbud :
    LengthOf ⟨false, []⟩ 1 (earlierRecord ⟨false, []⟩ earbud [0xff] 1).length ∧
      ∀ device behind length, LengthOf ⟨false, []⟩ 1 length →
        deserialisePersistentDeviceData (earlierRecord ⟨false, []⟩ earbud behind 1)
            ⟨false, []⟩ device length =
          some (setDeviceData device (upgraded ⟨false, []⟩ earbud 1)) :=
  deserialise_earlier ⟨false, []⟩ earbud (by decide)

/-- With a length that is too large the end tag is read as its profiles. -/
theorem tooLong_readsEndTag :
    (deserialisePersistentDeviceData
        (earlierRecord ⟨false, []⟩ earbud (0xff :: List.replicate 7 0) 0) ⟨false, []⟩ .create
        31).map (fun device => device .supportedProfiles) = some (some (0xff : UInt32)) ∧
      setDeviceData .create (upgraded ⟨false, []⟩ earbud 0) .supportedProfiles = some (0 : UInt32) ∧
      ¬ ∀ data behind versions length, versions ≤ 5 → length < 256 →
        deserialisePersistentDeviceData
            (earlierRecord ⟨false, []⟩ data (0xff :: behind) versions) ⟨false, []⟩ .create
            length =
          some (setDeviceData .create (upgraded ⟨false, []⟩ data versions)) := by
  refine ⟨rfl, rfl, fun always => ?_⟩
  have same := always earbud (List.replicate 7 0) 0 31 (by decide) (by decide)
  have profiles : some (some (0xff : UInt32)) = some (some 0) :=
    congrArg (Option.map fun device : Device => device .supportedProfiles) same
  exact absurd profiles (by decide)

end HeadsetAdk.BtDevice
