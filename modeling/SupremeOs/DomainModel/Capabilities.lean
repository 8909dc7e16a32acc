import SupremeOs.DomainModel.JsValue
import SupremeOs.Support.OrderedMap

/-!
# Capabilities

The vocabulary every layer above the backends speaks: devices, the kinds of
capability they have, the states they report and the commands they take.
-/

namespace SupremeOs.DomainModel

open Support

abbrev DeviceId := String

inductive CapabilityKind where
  | onoff
  | brightness
  | color
  | temperature
  | position
  | media
  | lock
  | fan
  | vacuum
  | sensor
  | remote
  | display
deriving DecidableEq, Repr

/-- The text a kind is written as. -/
def CapabilityKind.literal : CapabilityKind → String
  | .onoff => "onoff"
  | .brightness => "brightness"
  | .color => "color"
  | .temperature => "temperature"
  | .position => "position"
  | .media => "media"
  | .lock => "lock"
  | .fan => "fan"
  | .vacuum => "vacuum"
  | .sensor => "sensor"
  | .remote => "remote"
  | .display => "display"

theorem CapabilityKind.literal_injective : Function.Injective CapabilityKind.literal := by
  intro left right equal
  cases left <;> cases right <;> first | rfl | exact absurd equal (by decide)

/-- Where a state value came from. -/
inductive StateProvenance where
  | observed
  | commanded
  | assumed
  | unknown
deriving DecidableEq

structure CapabilityState where
  kind : CapabilityKind
  fields : OrderedMap String JsValue
deriving DecidableEq

structure CapabilityCommand where
  capability : CapabilityKind
  fields : OrderedMap String JsValue
deriving DecidableEq

inductive SupremeDeviceType where
  | light
  | dimmer
  | colorLight
  | thermostat
  | cover
  | mediaPlayer
  | lock
  | switch
  | fan
  | vacuum
  | sensor
  | camera
  | keypad
deriving DecidableEq

inductive DeviceStatus where
  | online
  | offline
  | unavailable
deriving DecidableEq

structure DeviceCapability where
  kind : CapabilityKind
  config : OrderedMap String JsValue
deriving DecidableEq

structure Device where
  id : DeviceId
  homeId : String
  roomId : Option String
  name : String
  supremeType : SupremeDeviceType
  manufacturer : Option String
  model : Option String
  driverId : Option String
  status : DeviceStatus
  capabilities : List DeviceCapability
  /-- The last known state of each kind. -/
  state : OrderedMap CapabilityKind CapabilityState
  metadata : OrderedMap String JsValue
deriving DecidableEq

inductive SwipeDirection where
  | up
  | down
  | left
  | right
deriving DecidableEq

/-- What happened at a control, with the data that belongs to it. -/
inductive KeypadGesture where
  | buttonPressed
  | buttonReleased
  | shortPress
  | longPress (holdMs : Nat)
  | doublePress
  | triplePress
  | holdStart
  | holding (elapsedMs : Nat)
  | holdEnd (heldMs : Nat)
  | rotateClockwise (steps : Nat) (velocity : Option JsNumber)
  | rotateCounterclockwise (steps : Nat) (velocity : Option JsNumber)
  | swipe (direction : SwipeDirection)
  | gesture (name : String)
deriving DecidableEq

/-- The `type` discriminants alone, by which mappings and triggers name an event. -/
inductive KeypadInputEventType where
  | buttonPressed
  | buttonReleased
  | shortPress
  | longPress
  | doublePress
  | triplePress
  | holdStart
  | holding
  | holdEnd
  | rotateClockwise
  | rotateCounterclockwise
  | swipe
  | gesture
deriving DecidableEq

def KeypadGesture.type : KeypadGesture → KeypadInputEventType
  | .buttonPressed => .buttonPressed
  | .buttonReleased => .buttonReleased
  | .shortPress => .shortPress
  | .longPress _ => .longPress
  | .doublePress => .doublePress
  | .triplePress => .triplePress
  | .holdStart => .holdStart
  | .holding _ => .holding
  | .holdEnd _ => .holdEnd
  | .rotateClockwise _ _ => .rotateClockwise
  | .rotateCounterclockwise _ _ => .rotateCounterclockwise
  | .swipe _ => .swipe
  | .gesture _ => .gesture

structure KeypadInputEvent where
  keypadId : DeviceId
  control : String
  ts : String
  gesture : KeypadGesture
deriving DecidableEq

def KeypadInputEvent.type (event : KeypadInputEvent) : KeypadInputEventType :=
  event.gesture.type

end SupremeOs.DomainModel
