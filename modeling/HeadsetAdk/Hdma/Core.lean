import HeadsetAdk.Hdma.Queue
import Mathlib.Algebra.Group.Int.Defs

/-!
# The handover algorithm

Samples of the two buds are filtered into one value each, and the values of the buds compared at
three levels of urgency.
-/

namespace HeadsetAdk.Hdma

/-- A number as `int16` -/
def toInt16 (number : Int) : Int := (number + 2 ^ 15) % 2 ^ 16 - 2 ^ 15

/-- A number as `uint16` -/
def toUInt16 (number : Int) : Int := number % 2 ^ 16

/-- A number as `int32` -/
def toInt32 (number : Int) : Int := (number + 2 ^ 31) % 2 ^ 32 - 2 ^ 31

/-- A number as `int8` -/
def toInt8 (number : Int) : Int := (number + 2 ^ 7) % 2 ^ 8 - 2 ^ 7

def unknownQuality : Nat := 0xFF

def unknownLinkQuality : Nat := 0x00

def hdmaInvalid : Int := -1

def invalidTimestamp : Nat := 0xFFFFFFF

def outOfEarTimeBeforeHandoverMs : Nat := 2100

def minUpdateIntMs : Nat := 0

def minHandoverRetryTimeLowMs : Nat := 0

def minHandoverRetryTimeHighMs : Nat := 0

def minHandoverRetryTimeCriticalMs : Nat := 0

def inEarFallback : Bool := true

inductive QueueType
  | rssi
  | mic
  | linkQuality
deriving DecidableEq

inductive Level
  | critical
  | high
  | low
deriving DecidableEq

structure UrgencyThresholds where
  critical : Int
  high : Int
  low : Int

def UrgencyThresholds.ofLevel (thresholds : UrgencyThresholds) : Level → Int
  | .critical => thresholds.critical
  | .high => thresholds.high
  | .low => thresholds.low

structure Thresholds where
  type : QueueType
  halfLife : UrgencyThresholds
  maxAge : UrgencyThresholds
  absThreshold : UrgencyThresholds
  relThreshold : UrgencyThresholds

def rssi : Thresholds where
  type := .rssi
  halfLife := ⟨1000, 2000, 5000⟩
  maxAge := ⟨3000, 10000, 30000⟩
  absThreshold := ⟨-80, -70, -60⟩
  relThreshold := ⟨5, 5, 8⟩

def link : Thresholds where
  type := .linkQuality
  halfLife := ⟨1000, 2000, 5000⟩
  maxAge := ⟨3000, 10000, 30000⟩
  absThreshold := ⟨toInt16 62000, toInt16 62000, toInt16 62000⟩
  relThreshold := ⟨400, 800, 1200⟩

def mic : Thresholds where
  type := .mic
  halfLife := ⟨1000, 2000, 5000⟩
  maxAge := ⟨3000, 10000, 30000⟩
  absThreshold := ⟨6, 9, 12⟩
  relThreshold := ⟨2, 3, 3⟩

inductive Reason
  | invalid
  | batteryLevel
  | voiceQuality
  | rssi
  | inCase
  | outOfEar
  | external
  | linkQuality
deriving DecidableEq

inductive Urgency
  | invalid
  | low
  | high
  | critical
deriving DecidableEq

def Urgency.number : Urgency → Nat
  | .invalid => 0
  | .low => 1
  | .high => 2
  | .critical => 3

def Level.urgency : Level → Urgency
  | .critical => .critical
  | .high => .high
  | .low => .low

inductive BatteryState
  | unknown
  | notSafe
  | critical
  | ok
deriving DecidableEq

structure HandoverResult where
  handover : Bool
  reason : Reason
  urgency : Urgency
deriving DecidableEq

def newResult (reason : Reason) (urgency : Urgency) : HandoverResult where
  handover := decide (reason ≠ .invalid) && decide (urgency ≠ .invalid)
  reason := reason
  urgency := urgency

def mergeResult (resOrig resNew : HandoverResult) : HandoverResult :=
  if resNew.urgency.number ≤ resOrig.urgency.number then resOrig else resNew

structure BudInfo where
  inOutTransitionTime : Nat
  lastTimeInEar : Nat
  /-- `none` is `HDMA_UNKNOWN` -/
  inEar : Option Bool
  inCase : Bool
  batteryStatus : BatteryState
  voiceQuality : Queue
  phoneRSSI : Queue
  linkQuality : Queue

def BudInfo.getInEar (bud : BudInfo) : Bool :=
  if bud.inCase then false else bud.inEar.getD inEarFallback

/-- The weight that `hdma_Filter` gives to a sample of that age -/
def sampleWeight (halfLife dt : Int) : Nat :=
  let nHalf : Int := min (dt.tdiv halfLife) 10
  -- Further shifts leave nothing in sixteen bits.
  let w : Nat := if 10 - nHalf < 16 then 2 ^ (10 - nHalf).toNat else 0
  let residualX4 : Int := 4 * (dt - nHalf * halfLife)
  if residualX4 > halfLife ∧ residualX4 ≤ 3 * halfLife then (w * 724) >>> 10
  else if residualX4 > 3 * halfLife then w >>> 1
  else w

/-- The value of a sample in `hdma_Filter`, of type `int16` -/
def sampleValue (type : QueueType) (qual : Nat) : Int :=
  match type with
  | .rssi => toInt16 (toInt8 qual)
  | .mic => toInt16 qual
  | .linkQuality => toInt16 qual

/-- The loop of `hdma_Filter` over the given number of samples, with the totals of the values
and of the weights.  There is no result when it reads a sample in front of the buffer. -/
def filterLoop (timestamp : Nat) (queue : Queue) (halfLife maxAge : Int) (type : QueueType) :
    (count : Nat) → (index totVal : Int) → (totWeight : Nat) → Option (Int × Nat)
  | 0, _, totVal, totWeight => some (totVal, totWeight)
  | count + 1, index, totVal, totWeight =>
      if index < 0 then none
      else
        let qual : Nat := (queue.quality index.toNat).data
        let t : Nat := ((queue.quality index.toNat).timestamp + queue.baseTime) % 2 ^ 32
        let val : Int := sampleValue type qual
        if (type = .mic ∧ val = unknownQuality) ∨
            (type = .linkQuality ∧ val = unknownLinkQuality) then
          -- Here the index is not moved from the first slot to the end of the buffer.
          filterLoop timestamp queue halfLife maxAge type count
            ((index - 1).tmod bufferLen) totVal totWeight
        else
          let dt : Int := toInt32 ((timestamp : Int) - t)
          if dt > maxAge then some (totVal, totWeight)
          else
            filterLoop timestamp queue halfLife maxAge type count
              (((if index = 0 then (bufferLen : Int) else index) - 1).tmod bufferLen)
              (totVal + sampleWeight halfLife dt * val) (totWeight + sampleWeight halfLife dt)

def round (num denom : Int) : Int :=
  if num < 0 then ((num * 2).tdiv denom - 1) >>> (1 : Nat)
  else ((num * 2).tdiv denom + 1) >>> (1 : Nat)

def filter (timestamp : Nat) (queue : Queue) (halfLife maxAge : Int) (type : QueueType) :
    Option Int :=
  (filterLoop timestamp queue halfLife maxAge type queue.size queue.rear 0 0).map fun totals =>
    if 0 < totals.2 then toInt16 (round totals.1 totals.2) else hdmaInvalid

section Checks

variable (timestamp : Nat) (localBud remoteBud : BudInfo)

/-- `hdma_CheckVoiceQuality`: whether the other bud is better, and whether this one is -/
def checkVoiceQuality (halfLife maxAge absVQ relVQ : Int) : Option (Bool × Bool) :=
  (filter timestamp localBud.voiceQuality halfLife maxAge .mic).bind fun thisVQ =>
  (filter timestamp remoteBud.voiceQuality halfLife maxAge .mic).map fun otherVQ =>
    if 0 ≤ thisVQ ∧ 0 ≤ otherVQ then
      (decide (thisVQ < absVQ ∧ otherVQ - thisVQ > relVQ),
        decide (otherVQ < absVQ ∧ thisVQ - otherVQ > relVQ))
    else (false, false)

/-- The call of `hdma_CheckVoiceQuality` for a level -/
def checkVoiceQualityAt (level : Level) : Option (Bool × Bool) :=
  checkVoiceQuality timestamp localBud remoteBud (mic.halfLife.ofLevel level)
    (mic.maxAge.ofLevel level)
    (mic.absThreshold.ofLevel level) (mic.relThreshold.ofLevel level)

/-- `hdma_ValidateVoiceQuality`: the urgency of a handover and of suppressing others -/
def validateVoiceQuality : Option (Urgency × Urgency) :=
  (checkVoiceQualityAt timestamp localBud remoteBud .critical).bind fun better =>
    if better.1 then some (.critical, .invalid)
    else if better.2 then some (.invalid, .critical)
    else (checkVoiceQualityAt timestamp localBud remoteBud .high).bind fun better =>
      if better.1 then some (.high, .invalid)
      else if better.2 then some (.invalid, .high)
      else (checkVoiceQualityAt timestamp localBud remoteBud .low).map fun better =>
        if better.1 then (.low, .invalid)
        else if better.2 then (.invalid, .low)
        else (.invalid, .invalid)

def checkRSSILevel (halfLife maxAge absRSSIThreshold relRSSIThreshold : Int) : Option Bool :=
  (if localBud.phoneRSSI.size > 0 then
    filter timestamp localBud.phoneRSSI halfLife maxAge .rssi else some 0).bind fun thisRSSI =>
  (if remoteBud.phoneRSSI.size > 0 then
    filter timestamp remoteBud.phoneRSSI halfLife maxAge .rssi else some 0).map fun otherRSSI =>
    if otherRSSI < 0 ∧ thisRSSI < 0 then
      decide (thisRSSI < absRSSIThreshold ∧ otherRSSI - thisRSSI > relRSSIThreshold)
    else false

/-- The call of `hdma_CheckRSSILevel` for a level -/
def checkRSSILevelAt (level : Level) : Option Bool :=
  checkRSSILevel timestamp localBud remoteBud (rssi.halfLife.ofLevel level)
    (rssi.maxAge.ofLevel level)
    (rssi.absThreshold.ofLevel level) (rssi.relThreshold.ofLevel level)

def validateLink : Option Urgency :=
  (checkRSSILevelAt timestamp localBud remoteBud .critical).bind fun better =>
    if better then some .critical
    else (checkRSSILevelAt timestamp localBud remoteBud .high).bind fun better =>
      if better then some .high
      else (checkRSSILevelAt timestamp localBud remoteBud .low).map fun better =>
        if better then .low else .invalid

/-- `hdma_CheckLinkQualityLevel`: whether the other bud is better, and the lowest quality -/
def checkLinkQualityLevel (halfLife maxAge absLQ relLQ : Int) : Option (Bool × Int) :=
  (if localBud.linkQuality.size > 0 then
    (filter timestamp localBud.linkQuality halfLife maxAge .linkQuality).map toUInt16
    else some 0).bind fun thisLQ =>
  (if remoteBud.linkQuality.size > 0 then
    (filter timestamp remoteBud.linkQuality halfLife maxAge .linkQuality).map toUInt16
    else some 0).map fun otherLQ =>
    (if otherLQ < 65535 ∧ thisLQ < 65535 then
      decide (thisLQ < toUInt16 absLQ ∧ otherLQ - thisLQ > toUInt16 relLQ)
    else false, if thisLQ < otherLQ then thisLQ else otherLQ)

/-- The call of `hdma_CheckLinkQualityLevel` for a level -/
def checkLinkQualityLevelAt (level : Level) : Option (Bool × Int) :=
  checkLinkQualityLevel timestamp localBud remoteBud (link.halfLife.ofLevel level)
    (link.maxAge.ofLevel level) (link.absThreshold.ofLevel level) (link.relThreshold.ofLevel level)

/-- `hdma_ValidateLinkQuality`: the urgency of a handover, and the lowest quality of the last
check.  The urgency of suppressing others is always invalid. -/
def validateLinkQuality : Option (Urgency × Int) :=
  (checkLinkQualityLevelAt timestamp localBud remoteBud .critical).bind fun better =>
    if better.1 then some (.critical, better.2)
    else (checkLinkQualityLevelAt timestamp localBud remoteBud .high).bind fun better =>
      if better.1 then some (.high, better.2)
      else (checkLinkQualityLevelAt timestamp localBud remoteBud .low).map fun better =>
        if better.1 then (.low, better.2) else (.invalid, better.2)

end Checks

structure Notification where
  /-- The reason and urgency of `HDMA_HANDOVER_NOTIFICATION`, none for
  `HDMA_CANCEL_HANDOVER_NOTIFICATION` -/
  recommended : Option (Reason × Urgency)
  timestamp : Nat
  /-- A ghost field, as is the next: the buds when the notification was made. -/
  localBud : BudInfo
  remoteBud : BudInfo

structure CoreData where
  hdmaResult : HandoverResult
  inCall : Bool
  lastHandoverAttempt : Nat
  timestamp : Nat
  remoteBud : BudInfo
  localBud : BudInfo
  lowestLQ : Int
  /-- A ghost field: the notifications, the newest first. -/
  notified : List Notification
  /-- A ghost field: the time of the newest event. -/
  clock : Nat

namespace CoreData

variable (data : CoreData)

/-- `hdma_NotifyHandoverClients` -/
def notify (recommended : Option (Reason × Urgency)) : CoreData :=
  { data with
    notified := ⟨recommended, data.timestamp, data.localBud, data.remoteBud⟩ :: data.notified }

def suppressionPeriod : Urgency → Nat
  | .low => minHandoverRetryTimeLowMs
  | .high => minHandoverRetryTimeHighMs
  | _ => minHandoverRetryTimeCriticalMs

def setHandoverEvent (result : HandoverResult) : CoreData :=
  if !result.handover then { data.notify none with hdmaResult := result }
  else if data.lastHandoverAttempt ≠ invalidTimestamp ∧
      (data.timestamp + 2 ^ 32 - data.lastHandoverAttempt) % 2 ^ 32 <
        suppressionPeriod result.urgency then data
  else
    let attempted : CoreData :=
      { data with hdmaResult := result, lastHandoverAttempt := data.timestamp }
    attempted.notify (some (result.reason, result.urgency))

/-- Whether the other bud cannot be handed over to because of its place or battery:
`skipRSSIChk` of `hdma_StateUpdate` -/
def skipRSSIChk : Bool :=
  (data.localBud.getInEar && !data.remoteBud.getInEar) || data.remoteBud.inCase ||
    decide (data.remoteBud.batteryStatus = .critical)

/-- `skipVoiceChk` of `hdma_StateUpdate` -/
def skipVoiceChk : Bool := !data.inCall || data.remoteBud.inCase

/-- Case (1) of `hdma_StateUpdate`: the bud is in the case -/
def inCaseResult (result : HandoverResult) : HandoverResult :=
  if data.localBud.inCase && !data.remoteBud.inCase then
    mergeResult result (newResult .inCase .critical)
  else result

/-- Case (2) of `hdma_StateUpdate`: the battery is critical -/
def batteryResult (result : HandoverResult) : HandoverResult :=
  if data.localBud.batteryStatus = .critical ∧ data.remoteBud.batteryStatus ≠ .critical ∧
      data.remoteBud.batteryStatus ≠ .unknown then
    if data.localBud.getInEar && !data.remoteBud.getInEar then result
    else mergeResult result (newResult .batteryLevel .high)
  else result

def seenInEar (timestamp : Nat) : CoreData :=
  { data with
    localBud :=
      if data.localBud.getInEar then { data.localBud with lastTimeInEar := timestamp }
      else data.localBud
    remoteBud :=
      if data.remoteBud.getInEar then { data.remoteBud with lastTimeInEar := timestamp }
      else data.remoteBud }

/-- Case (3) of `hdma_StateUpdate`: only the other bud is in the ear -/
def outOfEarResult (timestamp : Nat) (result : HandoverResult) : HandoverResult :=
  if !data.localBud.getInEar && data.remoteBud.getInEar then
    if data.localBud.lastTimeInEar = invalidTimestamp ∨
        outOfEarTimeBeforeHandoverMs ≤
          (timestamp + 2 ^ 32 - data.localBud.lastTimeInEar) % 2 ^ 32 then
      mergeResult result (newResult .outOfEar .high)
    else result
  else result

/-- Case (4) of `hdma_StateUpdate`: the signal strength -/
def rssiResult (timestamp : Nat) (result : HandoverResult) : Option HandoverResult :=
  if data.skipRSSIChk then some result
  else (validateLink timestamp data.localBud data.remoteBud).map fun urgency =>
    if urgency ≠ .invalid then mergeResult result (newResult .rssi urgency) else result

/-- How `hdma_StateUpdate` lets the link quality confirm, overrule or cancel a result -/
def linkDriven (result : HandoverResult) (urgency : Urgency) : HandoverResult :=
  if urgency ≠ .invalid then
    if result.reason = .rssi then
      if result.urgency = .critical then result
      else if urgency = .critical then mergeResult result (newResult .linkQuality urgency)
      else newResult .invalid .invalid
    else if urgency = .critical then mergeResult result (newResult .linkQuality urgency)
    else result
  else if result.reason = .rssi then newResult .invalid .invalid
  else result

/-- The link quality check of `hdma_StateUpdate`, with the lowest quality that it leaves -/
def linkResult (timestamp : Nat) (result : HandoverResult) : Option (HandoverResult × Int) :=
  if data.skipRSSIChk then some (result, data.lowestLQ)
  else (validateLinkQuality timestamp data.localBud data.remoteBud).map fun judged =>
    (linkDriven result judged.1, judged.2)

def suppressMic (suppressUrgency : Urgency) (result : HandoverResult) : Bool :=
  match suppressUrgency with
  | .critical => result.urgency = .high || result.urgency = .low || result.urgency = .invalid
  | .high => result.urgency = .low || result.urgency = .invalid
  | _ => false

/-- How `hdma_StateUpdate` lets the voice quality overrule or suppress a result -/
def voiceDriven (result : HandoverResult) (urgency suppressUrgency : Urgency) : HandoverResult :=
  let merged :=
    if urgency ≠ .invalid then mergeResult result (newResult .voiceQuality urgency) else result
  if suppressMic suppressUrgency merged then newResult .invalid .invalid else merged

/-- Case (6) of `hdma_StateUpdate`: the quality of the microphones during a call -/
def voiceResult (timestamp : Nat) (result : HandoverResult) : Option HandoverResult :=
  if data.skipVoiceChk then some result
  else (validateVoiceQuality timestamp data.localBud data.remoteBud).map fun judged =>
    voiceDriven result judged.1 judged.2

def externalResult (result : HandoverResult) : HandoverResult :=
  if !result.handover && data.hdmaResult.reason = .external then
    mergeResult result (newResult data.hdmaResult.reason data.hdmaResult.urgency)
  else result

def stateUpdate (timestamp : Nat) : Option CoreData :=
  if data.timestamp ≠ invalidTimestamp ∧
      (timestamp + 2 ^ 32 - data.timestamp) % 2 ^ 32 < minUpdateIntMs then
    some (data.setHandoverEvent (newResult .invalid .invalid))
  else
    let placed := data.batteryResult (data.inCaseResult (newResult .invalid .invalid))
    let seen : CoreData := { data with timestamp := timestamp }.seenInEar timestamp
    let worn := seen.outOfEarResult timestamp placed
    (seen.rssiResult timestamp worn).bind fun result =>
    (seen.linkResult timestamp result).bind fun judged =>
    (seen.voiceResult timestamp judged.1).map fun result =>
      let judgedData : CoreData := { seen with lowestLQ := judged.2 }
      judgedData.setHandoverEvent (judgedData.externalResult result)

inductive CoreEvent
  | inCase
  | outOfCase
  | peerInCase
  | peerOutOfCase
  | inEar
  | outOfEar
  | peerInEar
  | peerOutOfEar
  | scoConn
  | scoDiscon
deriving DecidableEq

def wear (bud : BudInfo) (timestamp : Nat) (inEar : Bool) : BudInfo :=
  { bud with
    inOutTransitionTime := if bud.getInEar = inEar then bud.inOutTransitionTime else timestamp
    inEar := some inEar }

/-- `Hdma_CoreHandleEvent` up to the update -/
def handleEvent (timestamp : Nat) (event : CoreEvent) : CoreData :=
  let seen := data.seenInEar timestamp
  match event with
  | .inCase => { seen with localBud := { seen.localBud with inCase := true } }
  | .outOfCase => { seen with localBud := { seen.localBud with inCase := false } }
  | .peerInCase => { seen with remoteBud := { seen.remoteBud with inCase := true } }
  | .peerOutOfCase => { seen with remoteBud := { seen.remoteBud with inCase := false } }
  | .inEar => { seen with localBud := wear seen.localBud timestamp true }
  | .outOfEar => { seen with localBud := wear seen.localBud timestamp false }
  | .peerInEar => { seen with remoteBud := wear seen.remoteBud timestamp true }
  | .peerOutOfEar => { seen with remoteBud := wear seen.remoteBud timestamp false }
  | .scoConn => { seen with inCall := true }
  | .scoDiscon => { seen with inCall := false }

def setBud (isThisBud : Bool) (change : BudInfo → BudInfo) : CoreData :=
  if isThisBud then { data with localBud := change data.localBud }
  else { data with remoteBud := change data.remoteBud }

/-- `Hdma_CoreHandleBatteryStatus` up to the update -/
def handleBatteryStatus (isThisBud : Bool) (batteryStatus : BatteryState) : CoreData :=
  data.setBud isThisBud ({ · with batteryStatus := batteryStatus })

/-- `Hdma_CoreHandleVoiceQuality` up to the update -/
def handleVoiceQuality (timestamp : Nat) (isThisBud : Bool) (voiceQuality : UInt8) : CoreData :=
  if voiceQuality.toNat ≠ unknownQuality then
    data.setBud isThisBud fun bud =>
      { bud with voiceQuality := bud.voiceQuality.insert voiceQuality.toNat timestamp }
  else data

/-- `Hdma_CoreHandleLinkQuality` up to the update -/
def handleLinkQuality (timestamp : Nat) (isThisBud : Bool) (rssi : Int8) (linkQuality : UInt16) :
    CoreData :=
  data.setBud isThisBud fun bud =>
    { bud with
      phoneRSSI := bud.phoneRSSI.insert (toUInt16 rssi.toInt).toNat timestamp
      linkQuality := bud.linkQuality.insert linkQuality.toNat timestamp }

def handleMirrorAclConnectionInd : CoreData :=
  let emptied (bud : BudInfo) : BudInfo :=
    { bud with phoneRSSI := bud.phoneRSSI.create, linkQuality := bud.linkQuality.create }
  let cleared : CoreData :=
    { data with localBud := emptied data.localBud, remoteBud := emptied data.remoteBud }
  if data.hdmaResult.reason = .linkQuality ∨ data.hdmaResult.reason = .rssi then
    cleared.notify none
  else cleared

def handleExternalReq (timestamp : Nat) (urgency : Urgency) : CoreData :=
  { data with timestamp := timestamp }.setHandoverEvent (newResult .external urgency)

end CoreData

/-- What the algorithm is told. -/
inductive Event
  | core (timestamp : Nat) (event : CoreData.CoreEvent)
  | batteryStatus (timestamp : Nat) (isThisBud : Bool) (batteryStatus : BatteryState)
  | voiceQuality (timestamp : Nat) (isThisBud : Bool) (voiceQuality : UInt8)
  | linkQuality (timestamp : Nat) (isThisBud : Bool) (rssi : Int8) (linkQuality : UInt16)
  | internal (timestamp : Nat)
  | external (timestamp : Nat) (urgency : Urgency)
  | mirrorAclConnection

namespace CoreData

def eventTime (data : CoreData) : Event → Nat
  | .core timestamp _ => timestamp
  | .batteryStatus timestamp _ _ => timestamp
  | .voiceQuality timestamp _ _ => timestamp
  | .linkQuality timestamp _ _ _ => timestamp
  | .internal timestamp => timestamp
  | .external timestamp _ => timestamp
  | .mirrorAclConnection => data.clock

def received (data : CoreData) : Event → CoreData
  | .core timestamp event => data.handleEvent timestamp event
  | .batteryStatus _ isThisBud batteryStatus => data.handleBatteryStatus isThisBud batteryStatus
  | .voiceQuality timestamp isThisBud voiceQuality =>
      data.handleVoiceQuality timestamp isThisBud voiceQuality
  | .linkQuality timestamp isThisBud rssi linkQuality =>
      data.handleLinkQuality timestamp isThisBud rssi linkQuality
  | .internal _ => data
  | .external timestamp urgency => data.handleExternalReq timestamp urgency
  | .mirrorAclConnection => data.handleMirrorAclConnectionInd

def updates : Event → Bool
  | .external _ _ => false
  | .mirrorAclConnection => false
  | _ => true

/-- The handler of an event, without a result when a filter reads outside of a buffer -/
def step (data : CoreData) (event : Event) : Option CoreData :=
  let handled : CoreData := { data.received event with clock := data.eventTime event }
  if updates event then handled.stateUpdate (data.eventTime event) else some handled

/-- `hdma_BudInit`, with the state of the bud from the state proxy -/
def budInit (quality : Nat → QualityData) (inEar inCase : Bool) (batteryStatus : BatteryState) :
    BudInfo :=
  let queue : Queue := Queue.create ⟨quality, 0, 0, 0, 0, []⟩
  { inOutTransitionTime := 0
    lastTimeInEar := invalidTimestamp
    inEar := some inEar
    inCase := inCase
    batteryStatus := batteryStatus
    voiceQuality := queue
    phoneRSSI := queue
    linkQuality := queue }

def init (localBud remoteBud : BudInfo) (inCall : Bool) : CoreData where
  hdmaResult := newResult .invalid .invalid
  inCall := inCall
  lastHandoverAttempt := invalidTimestamp
  timestamp := invalidTimestamp
  remoteBud := remoteBud
  localBud := localBud
  lowestLQ := 0xffff
  notified := []
  clock := 0

end CoreData

end HeadsetAdk.Hdma
