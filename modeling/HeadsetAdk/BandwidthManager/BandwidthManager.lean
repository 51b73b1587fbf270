import Mathlib.Data.List.Basic

/-!
# The bandwidth manager

Features tell the manager when they start and stop using bandwidth.  It keeps the running ones in
the first slots of its array.  A message holds the slot that its feature had when it was sent.
-/

namespace HeadsetAdk.BandwidthManager

/-- `bandwidth_manager_priority_t`, without the value for internal use. -/
inductive Priority
  | high
  | medium
  | low
deriving DecidableEq

namespace Priority

def level : Priority → Nat
  | high => 0
  | medium => 1
  | low => 2

/-- The priorities of `FOR_EACH_FEATURE_PRIORITY`. -/
def all : List Priority := [high, medium, low]

end Priority

inductive FeatureId
  | a2dpLl
  | pageScan
  | dfu
  | va
  | esco
  | a2dpHighBw
  | leBroadcast
  | leUnicast
  | max
  | invalidId
deriving DecidableEq

/-- `BANDWIDTH_MGR_FEATURE_MAX` as a number. -/
def featureMax : Nat := 8

/-- The identifier is below `BANDWIDTH_MGR_FEATURE_MAX`. -/
def FeatureId.isFeature (identifier : FeatureId) : Bool :=
  decide (identifier ≠ .max) && decide (identifier ≠ .invalidId)

/-- `bandwidth_manager_feature_info_t`.  Besides, `invoked` is the value that the callback
was last invoked with. -/
structure FeatureInfo where
  callback : Bool
  priority : Priority
  running : Bool
  throttleRequired : Bool
  identifier : FeatureId
  invoked : Option Bool
deriving DecidableEq

inductive ActionMsg
  | start
  | stop
deriving DecidableEq

/-- A queued message with its `feature_handle`.  Besides, `acting` is the priority of the
feature that it was sent for. -/
structure QueuedMessage where
  action : ActionMsg
  featureHandle : Nat
  acting : Priority
deriving DecidableEq

/-- `bandwidth_manager_info_t`, with the messages that wait for its task. -/
structure Info where
  featureInfo : List FeatureInfo
  activeFeaturesNum : Nat
  queue : List QueuedMessage
deriving DecidableEq

/-- How many features run at the priority: `running_at_priority`. -/
def runningAt (features : List FeatureInfo) (priority : Priority) : Nat :=
  features.countP fun feature => feature.running && decide (feature.priority = priority)

def totalRunning (features : List FeatureInfo) : Nat :=
  Priority.all.foldl (fun total priority => total + runningAt features priority) 0

def getHighestRunningFeaturePrio (features : List FeatureInfo) (defaultPrio : Priority) :
    Priority :=
  Priority.all.foldl (fun highest priority =>
    if runningAt features priority ≠ 0 ∧ priority.level < highest.level then priority
    else highest) defaultPrio

/-- The client is told whether to throttle. -/
def FeatureInfo.invoke (feature : FeatureInfo) (throttle : Bool) : FeatureInfo :=
  { feature with
    throttleRequired := throttle
    invoked := some throttle }

def throttleBandwidthOfAllLowPrioFeatures (higherFeaturePrio : Priority)
    (features : List FeatureInfo) : List FeatureInfo :=
  features.map fun feature =>
    if higherFeaturePrio.level < feature.priority.level ∧ feature.running then
      if !feature.throttleRequired then feature.invoke true else feature
    else feature

def unthrottleBandwidthOfFeatures (featurePrio : Priority) (features : List FeatureInfo) :
    List FeatureInfo :=
  features.map fun feature =>
    if featurePrio = feature.priority ∧ feature.running then
      if feature.throttleRequired then feature.invoke false else feature
    else feature

def handleAction (features : List FeatureInfo) (actingPrio : Priority) :
    ActionMsg → List FeatureInfo
  | .start =>
      if 1 < totalRunning features then
        match actingPrio with
        | .high => throttleBandwidthOfAllLowPrioFeatures .high features
        | .medium | .low =>
            throttleBandwidthOfAllLowPrioFeatures
              (getHighestRunningFeaturePrio features actingPrio) features
      else features
  | .stop =>
      if 0 < totalRunning features then
        let highestRunningPrio := getHighestRunningFeaturePrio features .low
        if actingPrio.level < highestRunningPrio.level then
          unthrottleBandwidthOfFeatures highestRunningPrio features
        else features
      else features

def getFirstNonRunningFeature (features : List FeatureInfo) : Option Nat :=
  features.findIdx? fun feature => !feature.running

def arrangeFeatureSlot (features : List FeatureInfo) (currentSlot : Nat) :
    List FeatureInfo × Nat :=
  match features[currentSlot]? with
  | none => (features, currentSlot)
  | some feature =>
      if feature.running then
        match getFirstNonRunningFeature features with
        | none => (features, currentSlot)
        | some slot =>
            match features[slot]? with
            | none => (features, currentSlot)
            | some other =>
                if slot < currentSlot then
                  ((features.set currentSlot other).set slot feature, slot)
                else (features, currentSlot)
      else if currentSlot ≠ features.length - 1 ∧
          (features[currentSlot + 1]?).any (·.running) then
        (features.eraseIdx currentSlot ++ [feature], features.length - 1)
      else (features, currentSlot)

/-- `bandwidthManager_GetFeatureInfoUsingIdentifier`, as a slot. -/
def getFeatureInfoUsingIdentifier (features : List FeatureInfo) (identifier : FeatureId) :
    Option Nat :=
  if identifier.isFeature then
    features.findIdx? fun feature => decide (feature.identifier = identifier)
  else none

namespace Info

/-- The state after `BandwidthManager_Init`. -/
def init : Info :=
  { featureInfo := []
    activeFeaturesNum := 0
    queue := [] }

/-- The priority is `none` when it is not one of the three. -/
def registerFeature (info : Info) (identifier : FeatureId) (priority : Option Priority)
    (callback : Bool) : Info × Bool :=
  if identifier.isFeature ∧ info.featureInfo.length < featureMax then
    match priority with
    | none => (info, false)
    | some priority =>
        if priority ≠ .high ∧ !callback then (info, false)
        else
          let feature : FeatureInfo := ⟨callback, priority, false, false, identifier, none⟩
          match getFeatureInfoUsingIdentifier info.featureInfo identifier with
          | none => ({ info with featureInfo := info.featureInfo ++ [feature] }, true)
          | some slot => ({ info with featureInfo := info.featureInfo.set slot feature }, true)
  else (info, false)

def act (info : Info) (slot : Nat) (feature : FeatureInfo) (action : ActionMsg)
    (activeFeaturesNum : Nat) : Info :=
  let arranged := arrangeFeatureSlot (info.featureInfo.set slot feature) slot
  { featureInfo := arranged.1
    activeFeaturesNum := activeFeaturesNum
    queue := info.queue ++ [⟨action, arranged.2, feature.priority⟩] }

def featureStart (info : Info) (identifier : FeatureId) : Info × Bool :=
  match getFeatureInfoUsingIdentifier info.featureInfo identifier with
  | none => (info, false)
  | some slot =>
      match info.featureInfo[slot]? with
      | none => (info, false)
      | some feature =>
          if feature.running then (info, false)
          else
            (info.act slot { feature with running := true, throttleRequired := false } .start
              (info.activeFeaturesNum + 1), true)

def featureStop (info : Info) (identifier : FeatureId) : Info × Bool :=
  match getFeatureInfoUsingIdentifier info.featureInfo identifier with
  | none => (info, false)
  | some slot =>
      match info.featureInfo[slot]? with
      | none => (info, false)
      | some feature =>
          if !feature.running then (info, false)
          else
            (info.act slot { feature with running := false, throttleRequired := false } .stop
              (info.activeFeaturesNum - 1), true)

/-- The first message is delivered: `bandwidthManager_handleMessage`. -/
def handleMessage (info : Info) : Option Info :=
  match info.queue with
  | [] => none
  | message :: queue =>
      (info.featureInfo[message.featureHandle]?).map fun acting =>
        { info with
          featureInfo := handleAction info.featureInfo acting.priority message.action
          queue := queue }

end Info

/-- What happens to the manager once its features are registered. -/
inductive Event
  | featureStart (identifier : FeatureId)
  | featureStop (identifier : FeatureId)
  | handleMessage
deriving DecidableEq

def Info.step (info : Info) : Event → Option Info
  | .featureStart identifier => some (info.featureStart identifier).1
  | .featureStop identifier => some (info.featureStop identifier).1
  | .handleMessage => info.handleMessage

/-- The arguments of `BandwidthManager_RegisterFeature`. -/
structure Registration where
  identifier : FeatureId
  priority : Option Priority
  callback : Bool

def Info.registered (registrations : List Registration) : Info :=
  registrations.foldl (fun info registration =>
    (info.registerFeature registration.identifier registration.priority
      registration.callback).1) Info.init

end HeadsetAdk.BandwidthManager
