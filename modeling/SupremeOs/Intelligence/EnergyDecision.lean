import SupremeOs.DomainModel.Capabilities

/-!
# Energy decisions

A device that is on, of a known wattage, for a while and in an area that
appears empty is suggested to be turned off.  Each suggestion has a confidence,
the least of what is known about the area, the owner and the time.

What the texts of a suggestion are made of (names, costs) is left out, and so
are the observations.
-/

namespace SupremeOs.Intelligence

open Support DomainModel

structure Zone where
  id : String
  roomIds : List String
deriving DecidableEq

structure PresenceEstimate where
  userId : String
  present : Bool
  confidence : JsNumber
  roomId : Option String

structure ZoneOccupancy where
  zoneId : String
  occupants : List String

/-- The text, unless it is empty; an empty text counts as none in a condition. -/
def nonEmpty (text : Option String) : Option String := text.filter fun value => value ≠ ""

def zoneOfRoom (zones : List Zone) (roomId : Option String) : Option String :=
  (nonEmpty roomId).bind fun room =>
    (zones.find? fun zone => zone.roomIds.contains room).map Zone.id

/--
What is known of the users that are online.  All signals are heartbeats of this
moment: they have one weight, speak for the presence and name no room.
-/
def heartbeatEstimates (online : List String) : List PresenceEstimate :=
  online.eraseDups.map fun userId => ⟨userId, true, .finite 1, none⟩

def zoneOccupancies (zones : List Zone) (estimates : List PresenceEstimate) : List ZoneOccupancy :=
  zones.map fun zone =>
    { zoneId := zone.id, occupants := (estimates.filter fun estimate => estimate.present &&
        decide (nonEmpty (zoneOfRoom zones estimate.roomId) = some zone.id)).map
          PresenceEstimate.userId }

/-- A number between zero and one. -/
def clamp01 : JsNumber → JsNumber
  | .finite value => JsNumber.min (.finite 1) (JsNumber.max (.finite 0) (.finite value))
  | .notANumber | .negativeInfinity | .positiveInfinity => .finite 0

/-- `clamp01(1 - value)`. -/
def complement (value : JsNumber) : JsNumber := clamp01 (JsNumber.subtract (.finite 1) value)

structure Confidence where
  presence : JsNumber
  roomVacancy : JsNumber
  zoneVacancy : JsNumber
  ownership : JsNumber
  energy : JsNumber
  decision : JsNumber

/-- The decision is as certain as the least certain dimension. -/
def makeConfidence (presence roomVacancy zoneVacancy ownership energy : JsNumber) : Confidence where
  presence := clamp01 presence
  roomVacancy := clamp01 roomVacancy
  zoneVacancy := clamp01 zoneVacancy
  ownership := clamp01 ownership
  energy := clamp01 energy
  decision := clamp01 ([roomVacancy, zoneVacancy, ownership, energy].foldl
    (fun least value => least.min (clamp01 value)) (clamp01 presence))

structure DeviceIntel where
  ownerUserId : Option String
  critical : Bool
  ignoreAutoPilot : Bool
  expectedAlwaysOn : Bool
  estimatedWatts : Option JsNumber

structure EnergyDeviceInput where
  deviceId : DeviceId
  roomId : Option String
  zoneId : Option String
  on : Bool
  onSinceMs : Option Nat
  watts : Option JsNumber
  intel : Option DeviceIntel

structure EnergyIntelInput where
  now : Nat
  devices : List EnergyDeviceInput
  presence : List PresenceEstimate
  zones : List ZoneOccupancy

/-- How long a device has to be on. -/
def minIdleMinutes : JsNumber := .finite 15

def minWatts : JsNumber := .finite 5

/-- How certain it has to be that a user is present. -/
def presentThreshold : JsNumber := roundToDouble (6 / 10)

/-- How certain it has to be that an area is empty. -/
def candidateVacancyFloor : JsNumber := .finite (1 / 2)

variable (presence : List PresenceEstimate)

def maxConfidence (counts : PresenceEstimate → Bool) : JsNumber :=
  presence.foldl
    (fun highest estimate => if counts estimate then highest.max estimate.confidence else highest)
    (.finite 0)

def roomOccupancyConfidence (roomId : Option String) : JsNumber :=
  match nonEmpty roomId with
  | none => .finite 0
  | some room =>
    maxConfidence presence fun estimate => estimate.present &&
      presentThreshold.lessOrEqual estimate.confidence && decide (estimate.roomId = some room)

def zoneOccupancyConfidence (zones : List ZoneOccupancy) (zoneId : Option String) : JsNumber :=
  match (nonEmpty zoneId).bind fun id => zones.find? fun zone => zone.zoneId = id with
  | none => .finite 0
  | some zone =>
    maxConfidence presence fun estimate => estimate.present &&
      presentThreshold.lessOrEqual estimate.confidence && zone.occupants.contains estimate.userId

/-- How certain it is that nobody is at home. -/
def houseVacancyConfidence : JsNumber :=
  complement (maxConfidence presence PresenceEstimate.present)

/-- How certain it is that the owner is not near the device. -/
def ownershipConfidence (owner roomId : Option String) (areaVacancy : JsNumber) : JsNumber :=
  match (nonEmpty owner).bind fun id => presence.find? fun estimate => estimate.userId = id with
  | none => houseVacancyConfidence presence
  | some estimate =>
    if estimate.present = false then complement estimate.confidence
    else if (nonEmpty roomId).isSome && decide (estimate.roomId = roomId) then .finite 0
    else clamp01 (JsNumber.add
      (JsNumber.multiply (.finite (1 / 2)) (JsNumber.subtract (.finite 1) estimate.confidence))
      (JsNumber.multiply (.finite (1 / 2)) areaVacancy))

structure DeviceEvaluation where
  deviceId : DeviceId
  candidate : Bool
  skipReason : Option String
  confidence : Confidence
  estimatedWatts : Option JsNumber

def evaluateDevice (device : EnergyDeviceInput) (input : EnergyIntelInput) : DeviceEvaluation :=
  let watts := (device.intel.bind DeviceIntel.estimatedWatts).or device.watts
  let onMinutes :=
    match device.on, device.onSinceMs with
    | true, some since => JsNumber.max (.finite 0)
        (JsNumber.divideBy (.finite (input.now - since : Int)) 60000)
    | _, _ => .finite 0
  let roomVacancy :=
    complement (roomOccupancyConfidence input.presence device.roomId)
  let zoneVacancy :=
    complement (zoneOccupancyConfidence input.presence input.zones device.zoneId)
  let areaVacancy :=
    if (nonEmpty device.roomId).isSome then roomVacancy
    else if (nonEmpty device.zoneId).isSome then zoneVacancy
    else houseVacancyConfidence input.presence
  let ownership := ownershipConfidence input.presence (device.intel.bind DeviceIntel.ownerUserId)
    device.roomId areaVacancy
  let hasMaterialWatts := watts.any minWatts.lessOrEqual
  let energy :=
    if hasMaterialWatts then clamp01 (onMinutes.divideBy (15 * 2)) else .finite 0
  let skipReason :=
    if device.on = false then some "not_on"
    else if device.intel.any DeviceIntel.critical then some "critical"
    else if device.intel.any DeviceIntel.ignoreAutoPilot then some "ignored"
    else if device.intel.any DeviceIntel.expectedAlwaysOn then some "expected_always_on"
    else if hasMaterialWatts = false then some "no_wattage"
    else if onMinutes.less minIdleMinutes then some "recently_on"
    else if areaVacancy.less candidateVacancyFloor then some "area_occupied"
    else none
  { deviceId := device.deviceId, candidate := skipReason.isNone, skipReason := skipReason
    confidence := makeConfidence areaVacancy roomVacancy zoneVacancy ownership energy
    estimatedWatts := if hasMaterialWatts then watts else none }

/-- A key: `energy:idle:` with a device, or any other text. -/
inductive SuggestionKey where
  | energyIdle (deviceId : DeviceId)
  | other (text : String)
deriving DecidableEq

def SuggestionKey.device : SuggestionKey → Option DeviceId
  | .energyIdle deviceId => some deviceId
  | .other _ => none

structure Suggestion where
  key : SuggestionKey
  deviceId : DeviceId
  confidence : Confidence
  estimatedWatts : Option JsNumber

def evaluateEnergyIntelligence (input : EnergyIntelInput) : List Suggestion :=
  ((input.devices.map fun device => evaluateDevice device input).filter
    DeviceEvaluation.candidate).map fun evaluation =>
      { key := .energyIdle evaluation.deviceId, deviceId := evaluation.deviceId
        confidence := evaluation.confidence
        estimatedWatts := evaluation.estimatedWatts }

/-- A lamp without a room, forgotten for half an hour, is a candidate unless someone is there. -/
example :
    let lamp : EnergyDeviceInput :=
      ⟨"lamp", none, none, true, some 60000, some (.finite 40), none⟩
    (evaluateDevice lamp ⟨1860000, [lamp], [], []⟩).confidence.decision = .finite 1 ∧
      (evaluateDevice lamp ⟨1860000, [lamp], heartbeatEstimates ["ann"], []⟩).skipReason =
        some "area_occupied" := by
  decide +kernel

end SupremeOs.Intelligence
