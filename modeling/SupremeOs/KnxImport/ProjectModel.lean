import SupremeOs.Support.OrderedMap
import Mathlib.Data.Rat.Defs

/-!
# Projects and what is recognized in them

The part of a parsed project that recognition reads, and its result.  An address
of the result is accounted for by a binding or by a warning about addresses that
are not bound.
-/

namespace SupremeOs.KnxImport

open Support

structure KnxGroupAddressRecord where
  id : String
  address : String
  name : String
  dpt : Option String
  mainGroup : Option String
  middleGroup : Option String
deriving DecidableEq

structure KnxCommunicationObject where
  id : String
  deviceInstanceId : String
  text : String
  groupAddressIds : List String

structure KnxDeviceInstance where
  id : String
  manufacturer : Option String
  product : Option String

/-- A named group of addresses, which is one device. -/
structure KnxFunctionGroup where
  id : String
  name : String
  groupAddressIds : List String

structure KnxProjectModel where
  deviceInstances : OrderedMap String KnxDeviceInstance
  communicationObjects : OrderedMap String KnxCommunicationObject
  groupAddresses : OrderedMap String KnxGroupAddressRecord
  functions : OrderedMap String KnxFunctionGroup

inductive KnxDeviceType where
  | light_switch
  | light_dimmable
  | light_tunable_white
  | light_rgb
  | light_rgbw
  | light_rgbww
  | light_color_temp
  | curtain
  | blind
  | roller_shutter
  | garage_door
  | thermostat
  | hvac_vrf
  | hvac_split_ac
  | hvac_cassette_ac
  | hvac_duct_ac
  | fan_coil
  | fan
  | sensor_temperature
  | sensor_humidity
  | sensor_motion
  | sensor_presence
  | sensor_lux
  | sensor_pressure
  | sensor_co2
  | sensor_pm25
  | sensor_leak
  | sensor_smoke
  | sensor_door
  | sensor_window
  | energy_meter
  | scene
  | audio
  | gate
  | door_lock
  | irrigation
  | pool
  | ventilation
  | custom_device
deriving DecidableEq

inductive SupremeDeviceType where
  | switch
  | dimmer
  | color_light
  | cover
  | thermostat
  | fan
  | sensor
  | media_player
  | lock

inductive CapabilityKind where
  | onoff
  | brightness
  | position
  | color
  | lock
  | temperature
  | sensor
deriving DecidableEq

/-- The role that an address plays. -/
inductive Role where
  | switch
  | switch_status
  | brightness
  | brightness_status
  | position
  | position_status
  | updown
  | stop
  | rgb
  | rgbw
  | color_temperature
  | red_channel
  | green_channel
  | blue_channel
  | white_channel
  | lock
  | lock_status
  | temperature_setpoint
  | temperature_ambient
  | temperature_generic
  | hvac_mode
  | hvac_fan_speed
  | hvac_contr_mode
  | hvac_heat_cool
  | hvac_status
  | hvac_setpoints
  | hvac_swing
  | scene
  | sensor_co2
  | sensor_lux
  | sensor_pressure
  | sensor_humidity
  | sensor_power
  | sensor_voltage
  | sensor_current
  | sensor_generic
  | presence
  | window_door
  | leak
  | smoke
  | alarm
  | unknown
deriving DecidableEq

def Role.text : Role → String
  | .switch => "switch"
  | .switch_status => "switch_status"
  | .brightness => "brightness"
  | .brightness_status => "brightness_status"
  | .position => "position"
  | .position_status => "position_status"
  | .updown => "updown"
  | .stop => "stop"
  | .rgb => "rgb"
  | .rgbw => "rgbw"
  | .color_temperature => "color_temperature"
  | .red_channel => "red_channel"
  | .green_channel => "green_channel"
  | .blue_channel => "blue_channel"
  | .white_channel => "white_channel"
  | .lock => "lock"
  | .lock_status => "lock_status"
  | .temperature_setpoint => "temperature_setpoint"
  | .temperature_ambient => "temperature_ambient"
  | .temperature_generic => "temperature_generic"
  | .hvac_mode => "hvac_mode"
  | .hvac_fan_speed => "hvac_fan_speed"
  | .hvac_contr_mode => "hvac_contr_mode"
  | .hvac_heat_cool => "hvac_heat_cool"
  | .hvac_status => "hvac_status"
  | .hvac_setpoints => "hvac_setpoints"
  | .hvac_swing => "hvac_swing"
  | .scene => "scene"
  | .sensor_co2 => "sensor_co2"
  | .sensor_lux => "sensor_lux"
  | .sensor_pressure => "sensor_pressure"
  | .sensor_humidity => "sensor_humidity"
  | .sensor_power => "sensor_power"
  | .sensor_voltage => "sensor_voltage"
  | .sensor_current => "sensor_current"
  | .sensor_generic => "sensor_generic"
  | .presence => "presence"
  | .window_door => "window_door"
  | .leak => "leak"
  | .smoke => "smoke"
  | .alarm => "alarm"
  | .unknown => "unknown"

/-- A further address of a climate device, with its meaning. -/
structure HvacRole where
  semanticRole : String
  address : String
  dpt : Option String

structure RecognizedBinding where
  capability : CapabilityKind
  address : String
  statusAddress : Option String
  role : Role
  dpt : Option String
  /-- Absent if it is empty. -/
  hvacRoles : List HvacRole

structure RecognizedDevice where
  fingerprint : String
  name : String
  sourceName : String
  deviceType : KnxDeviceType
  supremeType : SupremeDeviceType
  room : Option String
  floor : Option String
  building : Option String
  manufacturer : Option String
  product : Option String
  bindings : List RecognizedBinding
  sourceGroupAddressIds : List String
  sourceDeviceInstanceId : Option String
  confidence : ℚ

inductive ImportWarningCode where
  | duplicate_address (address : String)
  | missing_dpt (address : String)
  | unknown_dpt (address dpt : String)
  | broken_comm_object (comObjectId : String)
  | orphan_address (device : String) (addresses : List String)
  | unused_object (device : String) (addresses : List String)

structure ImportWarning where
  code : ImportWarningCode
  message : String

structure RecognitionResult where
  devices : List RecognizedDevice
  warnings : List ImportWarning

def RecognizedBinding.addresses (binding : RecognizedBinding) : List String :=
  binding.address :: (binding.statusAddress.toList ++ binding.hvacRoles.map HvacRole.address)

def RecognizedDevice.addresses (device : RecognizedDevice) : List String :=
  device.bindings.flatMap RecognizedBinding.addresses

/-- The addresses that a warning reports as not bound. -/
def ImportWarning.unbound (warning : ImportWarning) : List String :=
  match warning.code with
  | .orphan_address _ addresses | .unused_object _ addresses => addresses
  | .duplicate_address _ | .missing_dpt _ | .unknown_dpt _ _ | .broken_comm_object _ => []

def RecognitionResult.accounted (result : RecognitionResult) : List String :=
  result.devices.flatMap RecognizedDevice.addresses ++ result.warnings.flatMap ImportWarning.unbound

end SupremeOs.KnxImport
