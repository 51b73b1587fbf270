import Mathlib.Data.List.Nodup
import Mathlib.Data.List.Perm.Subperm
import Mathlib.Logic.Function.Basic

/-!
# Iterators of sources

An iterator of `sources_iterator.c` is an array of sources with the index of the next one.  Removing
a source moves the later ones to the front.
-/

namespace HeadsetAdk.AudioSources

inductive VoiceSource
  | hfp1 | hfp2 | usb | leAudioUnicast
  deriving DecidableEq

inductive AudioSource
  | a2dp1 | a2dp2 | usb | lineIn | leAudioUnicast | leAudioBroadcast
  deriving DecidableEq

/-- `generic_source_t` of a valid type -/
inductive GenericSource
  | voice (source : VoiceSource)
  | audio (source : AudioSource)
  deriving DecidableEq

inductive SourceType
  | invalid | voice | audio | max
  deriving DecidableEq

/-- `max_audio_sources+max_voice_sources`, where each has a `none` before its sources. -/
def maxSources : Nat := 7 + 5

def sourcesOf : SourceType → List GenericSource
  | .voice => [.voice .hfp1, .voice .hfp2, .voice .usb, .voice .leAudioUnicast]
  | .audio => [.audio .a2dp1, .audio .a2dp2, .audio .usb, .audio .lineIn,
      .audio .leAudioUnicast, .audio .leAudioBroadcast]
  | .invalid | .max => []

structure Registries where
  registered : GenericSource → Bool
  context : GenericSource → Nat

/-- `iterator_internal_t`; of the array, only its active sources. -/
structure SourcesIterator where
  activeSources : List GenericSource
  nextIndex : Nat

def contextIsAllowed (registries : Registries) (contexts : List Nat) (source : GenericSource) :
    Bool :=
  contexts = [] ∨ registries.context source ∈ contexts

/-- `sourcesIterator_AddSource`; there is none when it writes behind the array. -/
def SourcesIterator.addSource (iterator : SourcesIterator) (source : GenericSource) :
    Option SourcesIterator :=
  if iterator.activeSources.length < maxSources then
    some { iterator with activeSources := iterator.activeSources ++ [source] }
  else none

def added (registries : Registries) (type : SourceType) (contexts : List Nat) :
    List GenericSource :=
  (sourcesOf type).filter fun source =>
    registries.registered source && contextIsAllowed registries contexts source

def SourcesIterator.addSourcesInContextArray (iterator : SourcesIterator)
    (registries : Registries) (type : SourceType) (contexts : List Nat) :
    Option SourcesIterator :=
  (added registries type contexts).foldlM SourcesIterator.addSource iterator

def create (registries : Registries) (type : SourceType) : Option SourcesIterator := do
  let iterator : SourcesIterator := ⟨[], 0⟩
  if type = .max then
    let iterator ← iterator.addSourcesInContextArray registries .voice []
    iterator.addSourcesInContextArray registries .audio []
  else iterator.addSourcesInContextArray registries type []

/-- The loop of `SourcesIterator_RemoveSource`: from where the source is found, each source is
replaced by the one behind it. -/
def removeLoop (source : GenericSource) : List GenericSource → List GenericSource
  | [] => []
  | head :: rest => if head = source then rest else head :: removeLoop source rest

def SourcesIterator.removeSource (iterator : SourcesIterator) (source : GenericSource) :
    SourcesIterator :=
  { iterator with activeSources := removeLoop source iterator.activeSources }

/-- `SourcesIterator_NextGenericSource`; no source is `source_type_invalid`. -/
def SourcesIterator.nextGenericSource (iterator : SourcesIterator) :
    Option GenericSource × SourcesIterator :=
  match iterator.activeSources[iterator.nextIndex]? with
  | some source => (some source, { iterator with nextIndex := iterator.nextIndex + 1 })
  | none => (none, iterator)

/-- A call of `SourcesIterator_AddSourcesInContextArray`, with the registries at its time. -/
structure AddCall where
  registries : Registries
  type : SourceType
  contexts : List Nat

def AddCall.sources (call : AddCall) : List GenericSource :=
  added call.registries call.type call.contexts

structure Making where
  registries : Registries
  type : SourceType
  calls : List AddCall

def Making.iterator (making : Making) : Option SourcesIterator := do
  let iterator ← create making.registries making.type
  making.calls.foldlM (fun iterator call =>
    iterator.addSourcesInContextArray call.registries call.type call.contexts) iterator

def FreshCalls : List GenericSource → List AddCall → Prop
  | _, [] => True
  | active, call :: rest =>
    (∀ source ∈ call.sources, source ∉ active) ∧ FreshCalls (active ++ call.sources) rest

/-- The sources after `SourcesIterator_Create`. -/
def Making.created (making : Making) : List GenericSource :=
  if making.type = .max then
    added making.registries .voice [] ++ added making.registries .audio []
  else added making.registries making.type []

def Making.Fresh (making : Making) : Prop := FreshCalls making.created making.calls

theorem mem_sourcesOf (source : GenericSource) : source ∈ sourcesOf .voice ++ sourcesOf .audio := by
  cases source with
  | voice source => cases source <;> decide
  | audio source => cases source <;> decide

theorem length_lt_of_nodup {sources : List GenericSource} (nodup : sources.Nodup) :
    sources.length < maxSources := by
  have fits := (nodup.subperm fun source _ => mem_sourcesOf source).length_le
  exact Nat.lt_of_le_of_lt fits (by decide)

theorem added_nodup (registries : Registries) (type : SourceType) (contexts : List Nat) :
    (added registries type contexts).Nodup :=
  List.Nodup.filter _ (by cases type <;> decide)

theorem addAll_ok (active sources : List GenericSource) (nodup : (active ++ sources).Nodup) :
    sources.foldlM SourcesIterator.addSource ⟨active, 0⟩ =
      some (⟨active ++ sources, 0⟩ : SourcesIterator) := by
  induction sources generalizing active with
  | nil => simp
  | cons source sources ih =>
    have room := length_lt_of_nodup (List.Nodup.of_append_left nodup)
    rw [List.append_cons] at nodup ⊢
    rw [List.foldlM_cons, SourcesIterator.addSource, if_pos room]
    exact ih (active ++ [source]) nodup

theorem create_ok (making : Making) :
    create making.registries making.type = some ⟨making.created, 0⟩ ∧ making.created.Nodup := by
  have apart : (added making.registries .voice [] ++ added making.registries .audio []).Nodup := by
    rw [added, added, ← List.filter_append]
    exact List.Nodup.filter _ (by decide)
  by_cases both : making.type = .max
  · have voices := addAll_ok [] _ (added_nodup making.registries .voice [])
    have audios := addAll_ok _ _ apart
    rw [create, Making.created, if_pos both, if_pos both]
    refine ⟨?_, apart⟩
    exact (congrArg (· >>= _) voices).trans audios
  · rw [create, Making.created, if_neg both, if_neg both]
    have nodup := added_nodup making.registries making.type []
    exact ⟨addAll_ok [] _ nodup, nodup⟩

theorem calls_ok {calls : List AddCall} {active : List GenericSource} (nodup : active.Nodup)
    (fresh : FreshCalls active calls) :
    ∃ sources, calls.foldlM (fun (iterator : SourcesIterator) call =>
        iterator.addSourcesInContextArray call.registries call.type call.contexts) ⟨active, 0⟩ =
      some ⟨sources, 0⟩ ∧ sources.Nodup := by
  induction calls generalizing active with
  | nil => exact ⟨active, rfl, nodup⟩
  | cons call calls ih =>
    have longer : (active ++ call.sources).Nodup :=
      List.nodup_append.mpr ⟨nodup, added_nodup _ _ _, fun source first other second equal =>
        fresh.1 other second (equal ▸ first)⟩
    obtain ⟨sources, run, distinct⟩ := ih longer fresh.2
    refine ⟨sources, ?_, distinct⟩
    have step := addAll_ok _ _ longer
    rw [List.foldlM_cons, SourcesIterator.addSourcesInContextArray]
    exact (congrArg (· >>= _) step).trans run

theorem iterator_ok {making : Making} (fresh : making.Fresh) :
    ∃ sources, making.iterator = some ⟨sources, 0⟩ ∧ sources.Nodup := by
  obtain ⟨created, nodup⟩ := create_ok making
  obtain ⟨sources, run, distinct⟩ := calls_ok nodup fresh
  refine ⟨sources, ?_, distinct⟩
  rw [Making.iterator, created]
  exact run

/-- The audio sources are added to an iterator of all sources. -/
example : Making.iterator ⟨⟨fun _ => true, fun _ => 0⟩, .max,
    [⟨⟨fun _ => true, fun _ => 0⟩, .audio, []⟩]⟩ = none := by
  rfl

section Tours

inductive Call
  | next
  | remove (source : GenericSource)

structure Tour where
  iterator : SourcesIterator
  returned : List GenericSource
  early : List GenericSource

def Tour.step (tour : Tour) : Call → Tour
  | .next =>
    let (source, iterator) := tour.iterator.nextGenericSource
    { tour with iterator := iterator, returned := tour.returned ++ source.toList }
  | .remove source =>
    { tour with
      iterator := tour.iterator.removeSource source
      early := if source ∈ tour.returned then tour.early else source :: tour.early }

def stepAt (tours : Nat → Tour) (call : Nat × Call) : Nat → Tour :=
  Function.update tours call.1 ((tours call.1).step call.2)

def Tour.Allows (tour : Tour) : Call → Prop
  | .next => True
  | .remove source =>
    source ∉ tour.iterator.activeSources.take tour.iterator.nextIndex ∨
      tour.iterator.activeSources.length ≤ tour.iterator.nextIndex

def AllowedCalls (tours : Nat → Tour) : List (Nat × Call) → Prop
  | [] => True
  | call :: rest => (tours call.1).Allows call.2 ∧ AllowedCalls (stepAt tours call) rest

/-- What an iterator of the sources `initial` has returned. -/
structure ReturnsOnce (initial : List GenericSource) (tour : Tour) : Prop where
  once : tour.returned.Nodup
  due : ∀ source ∈ tour.returned, source ∈ initial ∧ source ∉ tour.early
  complete : tour.iterator.nextGenericSource.1 = none →
    ∀ source ∈ initial, source ∉ tour.early → source ∈ tour.returned

/-- Behind the index stands what is still due. -/
structure InOrder (initial : List GenericSource) (tour : Tour) : Prop where
  nodup : initial.Nodup
  order : tour.returned ++ tour.iterator.activeSources.drop tour.iterator.nextIndex =
    initial.filter fun source => source ∉ tour.early

variable {initial : List GenericSource} {tour : Tour} {call : Call} {source : GenericSource}

theorem removeLoop_eq_erase (sources : List GenericSource) :
    removeLoop source sources = sources.erase source := by
  induction sources with
  | nil => rfl
  | cons head rest ih =>
    rw [removeLoop, List.erase_cons, ih]
    simp

theorem nextGenericSource_eq_none {iterator : SourcesIterator} :
    iterator.nextGenericSource.1 = none ↔ iterator.activeSources.length ≤ iterator.nextIndex := by
  rw [SourcesIterator.nextGenericSource, ← List.getElem?_eq_none_iff]
  split <;> simp_all

section

variable (inOrder : InOrder initial tour)

include inOrder

theorem InOrder.returnsOnce : ReturnsOnce initial tour := by
  have nodup : (tour.returned ++ tour.iterator.activeSources.drop tour.iterator.nextIndex).Nodup :=
    inOrder.order ▸ inOrder.nodup.filter _
  refine ⟨List.Nodup.of_append_left nodup, fun source member => ?_,
    fun past source member late => ?_⟩
  · have kept := inOrder.order ▸ List.mem_append_left _ member
    simpa using List.mem_filter.mp kept
  · have kept : source ∈ initial.filter fun source => source ∉ tour.early :=
      List.mem_filter.mpr ⟨member, by simpa using late⟩
    rwa [← inOrder.order, List.drop_of_length_le (nextGenericSource_eq_none.mp past),
      List.append_nil] at kept

theorem InOrder.next : InOrder initial (tour.step .next) := by
  refine ⟨inOrder.nodup, ?_⟩
  rw [Tour.step, ← inOrder.order, SourcesIterator.nextGenericSource]
  cases found : tour.iterator.activeSources[tour.iterator.nextIndex]? with
  | some source =>
    obtain ⟨inside, value⟩ := List.getElem?_eq_some_iff.mp found
    rw [List.drop_eq_getElem_cons inside, value]
    simp
  | none => simp

theorem InOrder.remove (allowed : tour.Allows (.remove source)) :
    InOrder initial (tour.step (.remove source)) := by
  refine ⟨inOrder.nodup, ?_⟩
  have nodup : (tour.returned ++ tour.iterator.activeSources.drop tour.iterator.nextIndex).Nodup :=
    inOrder.order ▸ inOrder.nodup.filter _
  have dropped : (tour.iterator.activeSources.erase source).drop tour.iterator.nextIndex =
      (tour.iterator.activeSources.drop tour.iterator.nextIndex).erase source := by
    by_cases past : tour.iterator.activeSources.length ≤ tour.iterator.nextIndex
    · rw [List.drop_of_length_le past,
        List.drop_of_length_le (Nat.le_trans (List.length_erase_le ..) past), List.erase_nil]
    · have unreturned := allowed.resolve_right past
      conv_lhs =>
        rw [← List.take_append_drop tour.iterator.nextIndex tour.iterator.activeSources,
          List.erase_append_right _ unreturned]
      exact List.drop_left' (List.length_take_of_le (by omega))
  simp only [Tour.step, SourcesIterator.removeSource, removeLoop_eq_erase, dropped]
  by_cases known : source ∈ tour.returned
  · have gone := (List.nodup_append.mp nodup).2.2 source known
    rw [if_pos known, List.erase_of_not_mem fun member => gone source member rfl, inOrder.order]
  · rw [if_neg known, (List.Nodup.of_append_right nodup).erase_eq_filter]
    have filtered := congrArg (List.filter (· != source)) inOrder.order
    rw [List.filter_append, List.filter_filter, List.filter_eq_self.mpr] at filtered
    · rw [filtered]
      congr 1
      funext other
      rw [Bool.eq_iff_iff]
      simp
    · intro other member
      simpa using fun equal : other = source => known (equal ▸ member)

theorem InOrder.step (allowed : tour.Allows call) : InOrder initial (tour.step call) := by
  cases call with
  | next => exact inOrder.next
  | remove source => exact inOrder.remove allowed

end

theorem inOrder_of_calls {initials : Nat → List GenericSource} {tours : Nat → Tour}
    {calls : List (Nat × Call)} (inOrder : ∀ index, InOrder (initials index) (tours index))
    (allowed : AllowedCalls tours calls) (index : Nat) :
    InOrder (initials index) (calls.foldl stepAt tours index) := by
  induction calls generalizing tours with
  | nil => exact inOrder index
  | cons call calls ih =>
    refine ih (fun index => ?_) allowed.2
    by_cases same : index = call.1
    · subst same
      rw [stepAt, Function.update_self]
      exact (inOrder call.1).step allowed.1
    · rw [stepAt, Function.update_of_ne same]
      exact inOrder index

/-- No write falls behind the array, and every iterator returns what is due once and in order,
as long as nothing is added twice and no source is removed that was returned before another. -/
theorem returnsOnce_of_allowed (makings : Nat → Making) (fresh : ∀ index, (makings index).Fresh) :
    ∃ initials : Nat → List GenericSource,
      (∀ index, (makings index).iterator = some ⟨initials index, 0⟩) ∧
      ∀ calls, AllowedCalls (fun index => ⟨⟨initials index, 0⟩, [], []⟩) calls → ∀ index,
        ReturnsOnce (initials index)
          (calls.foldl stepAt (fun index => ⟨⟨initials index, 0⟩, [], []⟩) index) := by
  choose initials made nodup using fun index => iterator_ok (fresh index)
  refine ⟨initials, made, fun calls allowed index => ?_⟩
  have inOrder : ∀ index, InOrder (initials index) ⟨⟨initials index, 0⟩, [], []⟩ := fun index =>
    ⟨nodup index, by simp⟩
  exact (inOrder_of_calls inOrder allowed index).returnsOnce

def a2dpSources : Making where
  registries := ⟨fun source => source = .audio .a2dp1 ∨ source = .audio .a2dp2, fun _ => 0⟩
  type := .audio
  calls := []

theorem returnsOnce_a2dpSources :
    ReturnsOnce [.audio .a2dp1, .audio .a2dp2]
      ([(0, .next), (0, .remove (.audio .a2dp2))].foldl stepAt
        (fun _ => ⟨⟨[.audio .a2dp1, .audio .a2dp2], 0⟩, [], []⟩) 0) := by
  obtain ⟨initials, made, returns⟩ := returnsOnce_of_allowed (fun _ => a2dpSources)
    fun _ => trivial
  have both : initials = fun _ => [.audio .a2dp1, .audio .a2dp2] :=
    funext fun index => (SourcesIterator.mk.inj (Option.some.inj (made index))).1.symm
  subst both
  exact returns [(0, .next), (0, .remove (.audio .a2dp2))]
    ⟨trivial, Or.inl (by decide), trivial⟩ 0

/-- The first of two sources is removed after it was returned: the other is passed over. -/
theorem removed_skips :
    ¬ ∀ makings : Nat → Making, ∃ initials : Nat → List GenericSource,
      (∀ index, (makings index).iterator = some ⟨initials index, 0⟩) ∧
      ∀ (calls : List (Nat × Call)) index, ReturnsOnce (initials index)
        (calls.foldl stepAt (fun index => ⟨⟨initials index, 0⟩, [], []⟩) index) := by
  intro claim
  obtain ⟨initials, made, returns⟩ := claim fun _ => a2dpSources
  have both : initials = fun _ => [.audio .a2dp1, .audio .a2dp2] :=
    funext fun index => (SourcesIterator.mk.inj (Option.some.inj (made index))).1.symm
  subst both
  have complete := (returns [(0, .next), (0, .remove (.audio .a2dp1))] 0).complete
  exact absurd (complete rfl (.audio .a2dp2) (by decide) (by decide)) (by decide)

end Tours

end HeadsetAdk.AudioSources
