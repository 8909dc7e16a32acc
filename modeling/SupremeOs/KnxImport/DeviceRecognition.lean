import SupremeOs.KnxImport.RoleClassification
import SupremeOs.Support.Multimap
import SupremeOs.Support.Utf16
import Mathlib.Data.List.Infix
import Mathlib.Data.List.Lex
import Mathlib.Data.List.Sort

/-!
# Device recognition

Each group address becomes a signal with a role.  Signals are clustered by the
function they belong to, by the groups they stand in or by their names, and a
cluster becomes a device with at most one binding per capability.  A second
sensor of a cluster becomes a device of its own, and what cannot be bound is
reported.

Signals are told apart by their places in a list, where the source compares the
objects.
-/

namespace SupremeOs.KnxImport

open SupremeOs.Support

variable (toLowerCase : String → String)

structure GaSignal where
  ga : KnxGroupAddressRecord
  category : DptCategory
  role : Role
  roleText : String
  deviceInstanceId : Option String
  functionId : Option String
  functionName : Option String

def deviceBaseName (gaName roleText : String) : String :=
  let segments := splitNameSegments gaName
  let roleTokens := words (toLowerCase roleText)
  let kept := segments.filterMap fun segment =>
    let remaining := (words segment).filter fun word =>
      !functionWords.contains (toLowerCase word) && !roleTokens.contains (toLowerCase word)
    if remaining.isEmpty then none else some (join " " remaining)
  orElse (trim (join " " (if kept.isEmpty then segments else kept))) gaName

/-- The known room that a name contains, the first one of several. -/
def findRoomHint (gaName : String) (knownRooms : List String) : Option String :=
  knownRooms.find? fun room => decide ((toLowerCase room).toList <:+: (toLowerCase gaName).toList)

def trailingFunctionWords (lastSegment : String) : String :=
  let trailing := (words lastSegment).reverse.takeWhile fun word =>
    functionWords.contains (toLowerCase word)
  if trailing.isEmpty then lastSegment else join " " trailing.reverse

/-- What refers to each address first, from ids with the addresses they refer to. -/
def firstReferences (references : List (String × List String)) : OrderedMap String String :=
  references.foldl (fun found reference =>
    reference.2.foldl (fun found gaId =>
      if found.has gaId then found else found.set gaId reference.1) found) .empty

variable (model : KnxProjectModel)

def buildSignal (comObjectByGa functionByGa : OrderedMap String String)
    (ga : KnxGroupAddressRecord) : GaSignal :=
  let category := (classifyDpt ga.dpt).category
  let co := (given (comObjectByGa.get ga.id)).bind model.communicationObjects.get
  let functionId := functionByGa.get ga.id
  let roleText := (given (co.map KnxCommunicationObject.text)).getD
    (trailingFunctionWords toLowerCase ((splitNameSegments ga.name).getLast?.getD ga.name))
  { ga
    category
    role := classifyRole toLowerCase category roleText (ga.mainGroup.getD "")
      (ga.middleGroup.getD "") ga.name
    roleText
    deviceInstanceId := co.map KnxCommunicationObject.deviceInstanceId
    functionId
    functionName := ((given functionId).bind model.functions.get).map KnxFunctionGroup.name }

def buildSignals : List GaSignal :=
  let comObjectByGa := firstReferences
    (model.communicationObjects.values.map fun co => (co.id, co.groupAddressIds))
  let functionByGa := firstReferences
    (model.functions.values.map fun function => (function.id, function.groupAddressIds))
  model.groupAddresses.values.map (buildSignal toLowerCase model comObjectByGa functionByGa)

def clusterKey (knownRooms : List String) (sig : GaSignal) : String :=
  match given sig.functionId with
  | some functionId => "fn:" ++ functionId
  | none =>
    let named := findRoomHint toLowerCase sig.ga.name knownRooms
    let room := named.or (findRoomHint toLowerCase (sig.ga.mainGroup.getD "") knownRooms)
    match given (sig.ga.middleGroup.map trim) with
    | some middle =>
      "mg:" ++ (room.or sig.ga.mainGroup).getD "" ++ "::" ++ toLowerCase middle
    | none =>
      match given (sig.ga.mainGroup.map trim) with
      | some main => "rg:" ++ room.getD "" ++ "::" ++ toLowerCase main
      | none =>
        "name:" ++ named.getD "" ++ "::" ++
          toLowerCase (deviceBaseName toLowerCase sig.ga.name sig.roleText)

def clusterSignals (signals : List GaSignal) (knownRoomNames : List String) :
    Multimap String GaSignal :=
  Multimap.addAll .empty (signals.map fun sig => (clusterKey toLowerCase knownRoomNames sig, sig))

def isCoverDeviceType (deviceType : KnxDeviceType) : Bool :=
  [.curtain, .blind, .roller_shutter, .garage_door, .gate].contains deviceType

/-- The device type of a cluster, from its roles and the names around it. -/
def classifyDeviceType (roles : List Role) (mainGroups middleGroups : List String)
    (product : Option String) (baseName : String) : KnxDeviceType :=
  let has (role : Role) : Bool := roles.contains role
  let context := toLowerCase (join " " mainGroups) ++ " " ++ toLowerCase (join " " middleGroups) ++
    " " ++ toLowerCase baseName ++ " " ++ toLowerCase (product.getD "")
  let mentions (pattern : String) : Bool := Pattern.found pattern context
  if has .rgbw || (has .red_channel && has .white_channel) then .light_rgbww
  else if has .rgb || (has .red_channel && has .green_channel && has .blue_channel) then .light_rgb
  else if has .color_temperature && has .brightness then .light_tunable_white
  else if has .color_temperature then .light_color_temp
  else if has .position || has .updown || has .stop || has .position_status then
    if mentions "garage" then .garage_door
    else if mentions "gate" then .gate
    else if mentions "shutter|roller" then .roller_shutter
    else if mentions "blind" then .blind
    else .curtain
  else if has .brightness || has .brightness_status then .light_dimmable
  else if has .temperature_setpoint || has .temperature_ambient || has .hvac_mode ||
      has .hvac_contr_mode || has .hvac_heat_cool || has .hvac_status || has .hvac_setpoints ||
      has .hvac_fan_speed || has .hvac_swing then
    if mentions "vrf" then .hvac_vrf
    else if mentions "cassette" then .hvac_cassette_ac
    else if mentions "duct" then .hvac_duct_ac
    else if mentions "fan.?coil" then .fan_coil
    else if mentions "split|\\bac\\b|air.?con" then .hvac_split_ac
    else .thermostat
  else if mentions "\\bfan\\b" then .fan
  else if has .lock || has .lock_status then .door_lock
  else if mentions "irrigation|sprinkler|valve" then .irrigation
  else if mentions "pool|spa|jacuzzi" then .pool
  else if mentions "ventilat|extract|mvhr" then .ventilation
  else if mentions "audio|speaker|amplifier|zone.?player" then .audio
  else if has .presence then .sensor_presence
  else if has .window_door then .sensor_window
  else if has .leak then .sensor_leak
  else if has .smoke then .sensor_smoke
  else if has .sensor_co2 then .sensor_co2
  else if has .sensor_lux then .sensor_lux
  else if has .sensor_pressure then .sensor_pressure
  else if has .sensor_humidity then .sensor_humidity
  else if has .sensor_power || has .sensor_voltage || has .sensor_current then .energy_meter
  else if has .temperature_generic && roles.length = 1 then .sensor_temperature
  else if has .scene then .scene
  else if has .switch || has .switch_status then
    if mentions "irrigation|sprinkler|valve" then .irrigation
    else if mentions "pool|spa" then .pool
    else if mentions "ventilat|extract" then .ventilation
    else .light_switch
  else .custom_device

/-- `SUPREME_TYPE_BY_KNX_TYPE`. -/
def supremeTypeOf : KnxDeviceType → SupremeDeviceType
  | .light_switch | .scene | .irrigation | .pool | .custom_device => .switch
  | .light_dimmable => .dimmer
  | .light_tunable_white | .light_rgb | .light_rgbw | .light_rgbww | .light_color_temp =>
    .color_light
  | .curtain | .blind | .roller_shutter | .garage_door | .gate => .cover
  | .thermostat | .hvac_vrf | .hvac_split_ac | .hvac_cassette_ac | .hvac_duct_ac | .fan_coil =>
    .thermostat
  | .fan | .ventilation => .fan
  | .sensor_temperature | .sensor_humidity | .sensor_motion | .sensor_presence | .sensor_lux
  | .sensor_pressure | .sensor_co2 | .sensor_pm25 | .sensor_leak | .sensor_smoke | .sensor_door
  | .sensor_window | .energy_meter => .sensor
  | .audio => .media_player
  | .door_lock => .lock

def toBinding (sig : GaSignal) (statusAddress : Option String) (hvacRoles : List HvacRole) :
    RecognizedBinding where
  capability := (bindableCapability sig.role).getD .onoff
  address := sig.ga.address
  statusAddress := (given statusAddress).filter fun status => decide (status ≠ sig.ga.address)
  role := sig.role
  dpt := sig.ga.dpt
  hvacRoles := hvacRoles

/-- The signals of a cluster by what becomes of them. -/
structure Sorted where
  byCapability : Multimap CapabilityKind GaSignal
  excluded : List GaSignal
  hvacAuxSigs : List GaSignal

def Sorted.add (sorted : Sorted) (sig : GaSignal) : Sorted :=
  if (hvacSemanticRole sig.role).isSome then
    { sorted with hvacAuxSigs := sorted.hvacAuxSigs ++ [sig] }
  else
    match bindableCapability sig.role with
    | none => { sorted with excluded := sorted.excluded ++ [sig] }
    | some capability => { sorted with byCapability := sorted.byCapability.add capability sig }

def sortSignals (sigs : List GaSignal) : Sorted := sigs.foldl Sorted.add ⟨.empty, [], []⟩

def byPriority (list : List GaSignal) : List GaSignal :=
  list.insertionSort fun left right => rolePriority left.role ≤ rolePriority right.role

def hvacRolesOf (hvacAuxSigs : List GaSignal) : List HvacRole :=
  hvacAuxSigs.map fun sig =>
    ⟨(hvacSemanticRole sig.role).getD "", sig.ga.address, sig.ga.dpt⟩

def bindCapability (hvacAuxSigs : List GaSignal) (capability : CapabilityKind)
    (list : List GaSignal) : List RecognizedBinding × List GaSignal :=
  match byPriority list with
  | [] => ([], [])
  | winner :: rest =>
    let status := rest.find? fun sig => isStatusRole sig.role
    let hvacRoles := if capability = .temperature then hvacRolesOf hvacAuxSigs else []
    ([toBinding winner (status.map fun sig => sig.ga.address) hvacRoles],
      rest.eraseP fun sig => isStatusRole sig.role)

def collapseToOneBindingPerCapability (sigs : List GaSignal) :
    List RecognizedBinding × List GaSignal :=
  let sorted := sortSignals sigs
  let bound := sorted.byCapability.entries.map fun entry =>
    bindCapability sorted.hvacAuxSigs entry.1 entry.2
  let hvacAuxAttached := sorted.byCapability.has .temperature
  (bound.flatMap Prod.fst,
    sorted.excluded ++ bound.flatMap Prod.snd ++
      if hvacAuxAttached then [] else sorted.hvacAuxSigs)

/-- What a warning about signals that are not bound is for. -/
inductive UnboundCode where
  | unused_object
  | orphan_address

def emitUnboundWarning (deviceName : String) (excluded : List GaSignal) (code : UnboundCode) :
    List ImportWarning :=
  if excluded.isEmpty then []
  else
    let texts := excluded.map fun sig =>
      sig.ga.address ++ " (" ++ orElse sig.roleText sig.ga.name ++ ")"
    let addresses := excluded.map fun sig => sig.ga.address
    [{ code :=
        match code with
        | .unused_object => .unused_object deviceName addresses
        | .orphan_address => .orphan_address deviceName addresses
       message := "\"" ++ deviceName ++ "\": " ++ toString excluded.length ++ " address" ++
        (if excluded.length = 1 then "" else "es") ++ " not auto-bound — " ++ join ", " texts ++
        ". Bind these individually in Bus Binding." }]

/-- `texts.sort()`, by the code units of the texts. -/
def sortTexts (texts : List String) : List String :=
  texts.insertionSort fun left right =>
    (left.toList.flatMap Utf16.units).map UInt16.toNat ≤
      (right.toList.flatMap Utf16.units).map UInt16.toNat

structure ClusterFacts where
  deviceType : KnxDeviceType
  sourceDeviceInstanceId : Option String
  confidence : ℚ
  manufacturer : Option String
  product : Option String

def buildRecognizedDevice (facts : ClusterFacts) (name sourceName : String)
    (bindings : List RecognizedBinding) (sigs : List GaSignal) : RecognizedDevice where
  fingerprint :=
    match facts.sourceDeviceInstanceId with
    | some id =>
      "di:" ++ id ++ ":" ++ join "," (sortTexts (bindings.map fun binding => binding.role.text))
    | none => "ga:" ++ join "," (sortTexts (sigs.map fun sig => sig.ga.id))
  name := name
  sourceName := sourceName
  deviceType := facts.deviceType
  supremeType := supremeTypeOf facts.deviceType
  room := none
  floor := none
  building := none
  manufacturer := facts.manufacturer
  product := facts.product
  bindings := bindings
  sourceGroupAddressIds := sigs.map fun sig => sig.ga.id
  sourceDeviceInstanceId := facts.sourceDeviceInstanceId
  confidence := facts.confidence

/-- The values of a set in the order in which they were added, without empty ones. -/
def distinctGiven (texts : List (Option String)) : List String := (texts.filterMap given).eraseDups

/-- A percentage of what has turned out to be a cover is its position. -/
def GaSignal.retag (sig : GaSignal) : GaSignal :=
  { sig with
    role :=
      match sig.role with
      | .brightness => .position
      | .brightness_status => .position_status
      | role => role }

def rawBaseName (sigs : List GaSignal) : String :=
  (sigs.findSome? fun sig => given sig.functionName).getD
    (sigs.head?.elim "" fun first => deviceBaseName toLowerCase first.ga.name first.roleText)

def clusterFacts (sigs : List GaSignal) : ClusterFacts :=
  let deviceInstanceIds := distinctGiven (sigs.map GaSignal.deviceInstanceId)
  let sourceDeviceInstanceId :=
    match deviceInstanceIds with
    | [id] => some id
    | _ => none
  let sole := sourceDeviceInstanceId.bind model.deviceInstances.get
  let product := sole.bind KnxDeviceInstance.product
  { deviceType := classifyDeviceType toLowerCase (sigs.map GaSignal.role).eraseDups
      (distinctGiven (sigs.map fun sig => sig.ga.mainGroup))
      (distinctGiven (sigs.map fun sig => sig.ga.middleGroup)) product
      (rawBaseName toLowerCase sigs)
    sourceDeviceInstanceId
    confidence :=
      if sourceDeviceInstanceId.isSome then 1
      else if deviceInstanceIds ≠ [] then 4 / 5
      else 3 / 5
    manufacturer := sole.bind KnxDeviceInstance.manufacturer
    product }

/-- A device that exists takes up the first sensor; the bindings and the sensors that are left. -/
def absorbSensor (bindings : List RecognizedBinding) (sensorSigs : List GaSignal) :
    List RecognizedBinding × List GaSignal :=
  match bindings, sensorSigs with
  | _ :: _, first :: rest => (bindings ++ [toBinding first none []], rest)
  | _, _ => (bindings, sensorSigs)

def sensorDevice (facts : ClusterFacts) (humanBaseName baseName : String) (sig : GaSignal) :
    RecognizedDevice :=
  let label := (sensorRoleLabel sig.role).getD sig.roleText
  buildRecognizedDevice facts (humanBaseName ++ " — " ++ label) (baseName ++ " " ++ label)
    [toBinding sig none []] [sig]

def recognizeCluster (cluster : List GaSignal) : List RecognizedDevice × List ImportWarning :=
  let baseName := rawBaseName toLowerCase cluster
  let humanBaseName := humanizeName toLowerCase baseName
  let facts := clusterFacts toLowerCase model cluster
  let sigs := if isCoverDeviceType facts.deviceType then cluster.map GaSignal.retag else cluster
  let sensorSigs := sigs.filter fun sig => isSensorRole sig.role
  let primarySigs := sigs.filter fun sig => !isSensorRole sig.role
  let (primary, excluded) := collapseToOneBindingPerCapability primarySigs
  let (bindings, extraSensorSigs) := absorbSensor primary sensorSigs
  let splitOff := extraSensorSigs.map (sensorDevice facts humanBaseName baseName)
  if bindings.isEmpty then (splitOff, emitUnboundWarning humanBaseName excluded .orphan_address)
  else
    (buildRecognizedDevice facts humanBaseName baseName bindings sigs :: splitOff,
      emitUnboundWarning humanBaseName excluded .unused_object)

/-- Warnings about addresses that stand under another id before. -/
def duplicateWarnings (addresses : List KnxGroupAddressRecord) : List ImportWarning :=
  (addresses.foldl (fun (seen : OrderedMap String String × List ImportWarning) ga =>
    match (given (seen.1.get ga.address)).filter fun prior => decide (prior ≠ ga.id) with
    | some _ =>
      (seen.1, seen.2 ++ [⟨.duplicate_address ga.address, "Group address " ++ ga.address ++
        " appears more than once (\"" ++ ga.name ++ "\")."⟩])
    | none => (seen.1.set ga.address ga.id, seen.2)) (.empty, [])).2

def dptWarnings (ga : KnxGroupAddressRecord) : List ImportWarning :=
  match given ga.dpt with
  | none =>
    [⟨.missing_dpt ga.address, ga.name ++ " (" ++ ga.address ++ ") has no datapoint type."⟩]
  | some dpt =>
    if (classifyDpt ga.dpt).category = .unknown then
      [⟨.unknown_dpt ga.address dpt, ga.name ++ " (" ++ ga.address ++
        ") has an unrecognized DPT \"" ++ dpt ++ "\"."⟩]
    else []

def comObjectWarnings (co : KnxCommunicationObject) : List ImportWarning :=
  if co.groupAddressIds.isEmpty then
    [⟨.broken_comm_object co.id, "Communication object \"" ++ orElse co.text co.id ++
      "\" has no Send/Receive group address."⟩]
  else []

def recognizeDevices (knownRoomNames : List String) : RecognitionResult :=
  let clusters := clusterSignals toLowerCase (buildSignals toLowerCase model) knownRoomNames
  let recognized := clusters.values.map (recognizeCluster toLowerCase model)
  { devices := recognized.flatMap Prod.fst
    warnings := duplicateWarnings model.groupAddresses.values ++
      model.groupAddresses.values.flatMap dptWarnings ++
      model.communicationObjects.values.flatMap comObjectWarnings ++
      recognized.flatMap Prod.snd }

end SupremeOs.KnxImport
