import SupremeOs.DomainModel.JsValue

/-!
# Datapoint types

A datapoint type "major.minor" is classified by a table of the well known ones,
or by its major number alone.  A text whose major part is no number is unknown.
-/

namespace SupremeOs.KnxImport

open DomainModel

inductive DptCategory where
  | binary_switch
  | binary_alarm
  | binary_occupancy
  | binary_updown
  | binary_openclose
  | binary_windowdoor
  | binary_generic
  | step_dimming
  | step_blind
  | percentage
  | fan_speed_percentage
  | float_temperature
  | float_humidity
  | float_lux
  | float_pressure
  | float_co2
  | float_generic
  | float14_power
  | float14_voltage
  | float14_current
  | float14_generic
  | counter_energy
  | counter_generic
  | scene_control
  | color_rgb
  | color_rgbw
  | color_temperature_kelvin
  | hvac_mode
  | hvac_fan_speed
  | hvac_contr_mode
  | hvac_heat_cool
  | hvac_status
  | hvac_setpoints
  | enum_generic
  | string
  | datetime
  | unknown
deriving DecidableEq

structure DptClassification where
  dpt : String
  major : JsNumber
  minor : Option JsNumber
  category : DptCategory
  label : String
  isFallback : Bool

/-- `SUBTYPE_RULES`. -/
def subtypeRules : List (String × DptCategory × String) := [("1.001", .binary_switch, "Switch"),
  ("1.002", .binary_generic, "Boolean"), ("1.003", .binary_generic, "Enable"),
  ("1.005", .binary_alarm, "Alarm"), ("1.008", .binary_updown, "Up/Down"),
  ("1.009", .binary_openclose, "Open/Close"), ("1.010", .binary_generic, "Start/Stop"),
  ("1.011", .binary_generic, "State"), ("1.017", .binary_generic, "Trigger"),
  ("1.018", .binary_occupancy, "Occupancy"), ("1.019", .binary_windowdoor, "Window/Door"),
  ("1.021", .binary_generic, "Logical Function"), ("1.022", .binary_generic, "Scene A/B"),
  ("1.100", .hvac_heat_cool, "Heat/Cool"), ("3.007", .step_dimming, "Relative Dimming"),
  ("3.008", .step_blind, "Blind Step"), ("5.001", .percentage, "Scaling (%)"),
  ("5.003", .float_generic, "Angle"), ("5.004", .percentage, "Percentage (0..255)"),
  ("5.010", .counter_generic, "Counter Pulses (1 byte)"),
  ("5.100", .fan_speed_percentage, "Fan Speed (%)"), ("6.001", .float_generic, "Percentage V8"),
  ("6.010", .counter_generic, "Counter Pulses (signed 1 byte)"),
  ("7.001", .counter_generic, "Pulses (2 byte)"), ("7.002", .counter_generic, "Time (ms)"),
  ("7.005", .counter_generic, "Time (s)"), ("7.013", .float_generic, "Brightness (lux, 2 byte)"),
  ("7.600", .color_temperature_kelvin, "Colour Temperature (K)"),
  ("9.001", .float_temperature, "Temperature (°C)"),
  ("9.002", .float_temperature, "Temperature Difference (K)"),
  ("9.004", .float_lux, "Illuminance (lux)"), ("9.005", .float_generic, "Wind Speed (m/s)"),
  ("9.006", .float_pressure, "Pressure (Pa)"), ("9.007", .float_humidity, "Humidity (%)"),
  ("9.008", .float_co2, "Air Quality (ppm)"), ("9.020", .float_generic, "Voltage (mV)"),
  ("9.021", .float_generic, "Current (mA)"), ("9.024", .float_generic, "Power (kW)"),
  ("9.025", .float_generic, "Power (kVA)"),
  ("12.001", .counter_generic, "Counter (4 byte unsigned)"),
  ("13.010", .counter_energy, "Active Energy (Wh)"),
  ("13.012", .counter_energy, "Reactive Energy (VArh)"),
  ("13.013", .counter_energy, "Active Energy (kWh)"),
  ("13.014", .counter_energy, "Reactive Energy (kVArh)"),
  ("14.019", .float14_current, "Electric Current (A)"),
  ("14.027", .float14_voltage, "Electric Voltage (V)"),
  ("14.033", .float14_generic, "Frequency (Hz)"), ("14.056", .float14_power, "Power (W)"),
  ("14.057", .float14_power, "Power Factor"), ("14.076", .float14_generic, "Wind Speed (m/s)"),
  ("16.000", .string, "ASCII String"), ("16.001", .string, "Latin-1 String"),
  ("17.001", .scene_control, "Scene Number"), ("18.001", .scene_control, "Scene Control"),
  ("19.001", .datetime, "Date & Time"), ("20.102", .hvac_mode, "HVAC Controller Mode"),
  ("20.105", .hvac_contr_mode, "HVAC Controlling Mode"),
  ("20.106", .hvac_mode, "HVAC Controller Status"), ("22.101", .hvac_status, "HVAC Status (RHCC)"),
  ("222.100", .hvac_setpoints, "HVAC Named Setpoints (Comfort/Standby/Economy)"),
  ("28.001", .string, "UTF-8 String"), ("29.010", .counter_energy, "Active Energy (V64, Wh)"),
  ("29.011", .counter_energy, "Apparent Energy (V64, VAh)"),
  ("29.012", .counter_energy, "Reactive Energy (V64, VARh)"), ("232.600", .color_rgb, "RGB Colour"),
  ("251.600", .color_rgbw, "RGBW Colour")]

/-- `MAJOR_FALLBACK`. -/
def majorFallback : List (Nat × DptCategory × String) := [(1, .binary_generic, "1-bit value"),
  (2, .binary_generic, "1-bit controlled"), (3, .step_dimming, "3-bit controlled"),
  (4, .string, "Character"), (5, .percentage, "8-bit unsigned value"),
  (6, .float_generic, "8-bit signed value"), (7, .counter_generic, "2-byte unsigned value"),
  (8, .float_generic, "2-byte signed value"), (9, .float_generic, "2-byte float value"),
  (10, .datetime, "Time"), (11, .datetime, "Date"), (12, .counter_generic, "4-byte unsigned value"),
  (13, .counter_generic, "4-byte signed value"), (14, .float14_generic, "4-byte float value"),
  (16, .string, "String"), (17, .scene_control, "Scene number"),
  (18, .scene_control, "Scene control"), (19, .datetime, "Date & time"),
  (20, .enum_generic, "1-byte enum"), (21, .binary_generic, "8-bit set"),
  (28, .string, "UTF-8 string"), (29, .counter_energy, "8-byte signed value"),
  (232, .color_rgb, "3-byte colour"), (251, .color_rgbw, "6-byte colour")]

def unknownDpt (dpt : String) : DptClassification where
  dpt := dpt
  major := .finite (-1)
  minor := none
  category := .unknown
  label := "Unknown"
  isFallback := true

/-- Classify a datapoint type, which may be absent. -/
def classifyDpt (dpt : Option String) : DptClassification :=
  match dpt.filter fun text => !text.isEmpty with
  | none => unknownDpt ""
  | some dpt =>
    let parts := (dpt.toList.splitOn '.').map String.ofList
    let minor := parts[1]?.map textToNumber
    match textToNumber (parts[0]?.getD "") with
    | .finite major =>
      match subtypeRules.lookup dpt with
      | some (category, label) => ⟨dpt, .finite major, minor, category, label, false⟩
      | none =>
        match majorFallback.find? fun rule => decide ((rule.1 : ℚ) = major) with
        | some (_, category, label) => ⟨dpt, .finite major, minor, category, label, true⟩
        | none => ⟨dpt, .finite major, minor, .unknown, "DPT " ++ dpt, true⟩
    | .notANumber | .negativeInfinity | .positiveInfinity => unknownDpt dpt

example : (classifyDpt (some "20.105")).category = .hvac_contr_mode := by decide +kernel

end SupremeOs.KnxImport
