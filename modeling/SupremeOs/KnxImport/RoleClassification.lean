import SupremeOs.KnxImport.DptAnalyzer
import SupremeOs.KnxImport.NameCleanup
import SupremeOs.KnxImport.ProjectModel
import SupremeOs.Support.Pattern

/-!
# Roles of group addresses

The role of an address follows from its datapoint type, from the text that tells
its function, and where these leave it open from the names around it.  A role may
belong to a capability to which it can be bound; sensors have a capability of
their own, and some roles only accompany a temperature.
-/

namespace SupremeOs.KnxImport

open Support.Pattern

/-- `FUNCTION_WORDS`. -/
def functionWords : List String := [
  "switch", "toggle", "on/off", "onoff", "on off", "status", "state", "feedback",
  "dim", "dimming", "brightness", "value", "level", "relative", "absolute",
  "position", "move", "up/down", "up", "down", "stop",
  "temperature", "temp", "setpoint", "current", "actual", "ambient", "mode", "swing",
  "lock", "unlock", "scene", "recall", "colour", "color", "rgb", "rgbw", "rgbww", "white",
  "sw", "fb", "dimm", "abs", "rel", "col", "stat", "sp", "amb", "cur"]

def looksLikeCover (text : String) : Bool :=
  found "blind|shutter|shade|cover|curtain|awning|garage|gate" text

def looksLikeDimmableLight (text : String) : Bool :=
  found "dim|light|lamp|spot|downlight|led" text

/-- The text says that a value is reported. -/
def reports (text : String) : Bool := found "status|feedback|state" text

/-- What is decided by the text or the datapoint type alone, before covers are looked for. -/
def plainRole (category : DptCategory) (t context : String) : Option Role :=
  if found "\\bred\\b" t then some .red_channel
  else if found "\\bgreen\\b" t then some .green_channel
  else if found "\\bblue\\b" t then some .blue_channel
  else if found "warm\\s*white|cool\\s*white|\\bwhite\\b" t && decide (category ≠ .color_rgbw) then
    some .white_channel
  else if category = .color_rgb then some .rgb
  else if category = .color_rgbw then some .rgbw
  else if category = .color_temperature_kelvin then some .color_temperature
  else if category = .hvac_mode then some .hvac_mode
  else if category = .hvac_fan_speed then some .hvac_fan_speed
  else if category = .hvac_contr_mode then some .hvac_contr_mode
  else if category = .hvac_heat_cool then some .hvac_heat_cool
  else if category = .hvac_status then some .hvac_status
  else if category = .hvac_setpoints then some .hvac_setpoints
  else if category = .scene_control then some .scene
  else if found "\\block\\b|\\bunlock\\b" t then
    some (if reports t then .lock_status else .lock)
  else if found "swing" t then some .hvac_swing
  else if found "\\bfan\\b" t && found "speed|level" t then some .hvac_fan_speed
  else if found "\\bmode\\b" t && found "hvac|climate|heat|cool|thermostat|ac\\b" context then
    some .hvac_mode
  else if category = .binary_updown ∨ category = .binary_openclose then
    some (if reports t then .position_status else .updown)
  else none

def sensorRole (category : DptCategory) (t : String) : Option Role :=
  if decide (category = .binary_occupancy) || found "occupan|presence|motion|\\bpir\\b" t then
    some .presence
  else if decide (category = .binary_windowdoor) || found "\\bwindow\\b|\\bdoor\\b" t then
    some .window_door
  else if found "leak|flood" t then some .leak
  else if found "smoke|fire" t then some .smoke
  else if decide (category = .float_co2) || found "co2|air.?quality" t then some .sensor_co2
  else if decide (category = .float_lux) || found "\\blux\\b|illuminance" t then some .sensor_lux
  else if decide (category = .float_pressure) || found "pressure" t then some .sensor_pressure
  else if decide (category = .float_humidity) || found "humid" t then some .sensor_humidity
  else if category = .float_temperature then
    some (if found "set ?point|target|desired" t then .temperature_setpoint
      else if found "current|actual|ambient|room" t then .temperature_ambient
      else .temperature_generic)
  else if category = .counter_energy ∨ category = .float14_power then some .sensor_power
  else if category = .float14_voltage then some .sensor_voltage
  else if category = .float14_current then some .sensor_current
  else if category = .counter_generic ∨ category = .float_generic ∨
      category = .float14_generic then some .sensor_generic
  else none

/-- The role of an address of a cover or a light, or of none that is known. -/
def actuatorRole (category : DptCategory) (t context : String) : Role :=
  if looksLikeCover context then
    if found "stop" t then .stop
    else if reports t then .position_status
    else if found "up.?down|move" t then .updown
    else .position
  else if category = .step_dimming ∨
      (category = .percentage ∧ looksLikeDimmableLight context = true) then
    if reports t then .brightness_status else .brightness
  else if category = .percentage then
    if reports t then .brightness_status else .brightness
  else if category = .binary_switch ∨ category = .binary_generic then
    if reports t then .switch_status else .switch
  else if category = .binary_alarm then .alarm
  else .unknown

def classifyRole (toLowerCase : String → String) (category : DptCategory)
    (roleText mainGroup middleGroup gaName : String) : Role :=
  let t := toLowerCase roleText
  let context := t ++ " " ++ toLowerCase mainGroup ++ " " ++ toLowerCase middleGroup ++ " " ++
    toLowerCase gaName
  match plainRole category t context with
  | some role => role
  | none =>
    match sensorRole category t with
    | some role => role
    | none => actuatorRole category t context

/-- `BINDABLE_CAPABILITY_BY_ROLE`. -/
def bindableCapability : Role → Option CapabilityKind
  | .switch | .switch_status => some .onoff
  | .brightness | .brightness_status => some .brightness
  | .position | .position_status => some .position
  | .rgb | .rgbw | .color_temperature => some .color
  | .lock | .lock_status => some .lock
  | .temperature_setpoint | .temperature_ambient | .temperature_generic => some .temperature
  | .sensor_co2 | .sensor_lux | .sensor_pressure | .sensor_humidity | .sensor_power
  | .sensor_voltage | .sensor_current | .sensor_generic | .presence | .window_door | .leak
  | .smoke | .alarm => some .sensor
  | .updown | .stop | .red_channel | .green_channel | .blue_channel | .white_channel
  | .hvac_mode | .hvac_fan_speed | .hvac_contr_mode | .hvac_heat_cool | .hvac_status
  | .hvac_setpoints | .hvac_swing | .scene | .unknown => none

/-- `ROLE_PRIORITY`, nothing for a role that it does not name. -/
def rolePriority : Role → Nat
  | .switch_status | .brightness_status | .position_status | .lock_status
  | .temperature_generic => 1
  | .temperature_ambient => 2
  | _ => 0

/-- `SENSOR_ROLES` and `SENSOR_ROLE_LABEL`, which name the same roles. -/
def sensorRoleLabel : Role → Option String
  | .sensor_co2 => some "CO₂"
  | .sensor_lux => some "Illuminance"
  | .sensor_pressure => some "Pressure"
  | .sensor_humidity => some "Humidity"
  | .sensor_power => some "Power"
  | .sensor_voltage => some "Voltage"
  | .sensor_current => some "Current"
  | .sensor_generic => some "Sensor"
  | .presence => some "Presence"
  | .window_door => some "Window/Door"
  | .leak => some "Leak"
  | .smoke => some "Smoke"
  | .alarm => some "Alarm"
  | _ => none

def isSensorRole (role : Role) : Bool := (sensorRoleLabel role).isSome

/-- `HVAC_AUX_SEMANTIC_ROLE`. -/
def hvacSemanticRole : Role → Option String
  | .hvac_mode => some "operatingMode"
  | .hvac_contr_mode => some "controllingModeExtended"
  | .hvac_heat_cool => some "heatCool"
  | .hvac_status => some "status"
  | .hvac_setpoints => some "setpoints"
  | _ => none

/-- A role that reports what another address of the capability sets. -/
def isStatusRole (role : Role) : Bool :=
  "_status".toList.isSuffixOf role.text.toList || decide (role = .temperature_ambient)

theorem isSensorRole_iff (role : Role) :
    isSensorRole role = true ↔ bindableCapability role = some .sensor := by
  cases role <;> simp [isSensorRole, sensorRoleLabel, bindableCapability]

end SupremeOs.KnxImport
