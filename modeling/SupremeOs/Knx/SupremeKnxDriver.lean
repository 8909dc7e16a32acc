import SupremeOs.DomainModel.Capabilities
import SupremeOs.Support.Multimap

/-!
# The KNX driver and its subscriptions

The driver keeps the bindings of capabilities and the registered buttons.  Its
provider keeps a list of observers for each group address, over connections:
connecting subscribes everything that is bound, and an address can be
unsubscribed only as a whole.

An observer is the record of the function that the driver subscribes.
-/

namespace SupremeOs.Knx

open Support DomainModel

def KNX_ACTUATED_CAPABILITIES : List CapabilityKind :=
  [.onoff, .brightness, .position, .color, .lock, .fan]

def hasAttributableFeedback (capability : CapabilityKind) (commandGa : String)
    (declaredStatus : Option String) (explicitShared : Bool) : Bool :=
  if capability ∉ KNX_ACTUATED_CAPABILITIES then true
  else
    match declaredStatus with
    | none => false
    | some status => decide (status ≠ commandGa) || explicitShared

def defaultDpt : CapabilityKind → String
  | .onoff => "DPT1.001"
  | .brightness | .position => "DPT5.001"
  | .sensor => "DPT9.001"
  | .color => "DPT232.600"
  | .lock => "DPT1.001"
  | .temperature => "DPT9.001"
  | _ => "DPT1.001"

/-- The settings that are read of a binding; an absent one is `undefined`. -/
structure BindingConfig where
  statusAddress : JsValue
  /-- Absent unless it is an array. -/
  extraStatusAddresses : Option (List JsValue)
  feedbackOnCommandAddress : JsValue
  dpt : JsValue

structure ProtocolBinding where
  deviceId : DeviceId
  capability : CapabilityKind
  address : String
  config : BindingConfig

structure KnxDeviceBinding where
  deviceId : DeviceId
  capability : CapabilityKind
  writeGa : String
  statusGa : String
  extraStatusGas : List String
  feedbackGas : List String
  dpt : String
  config : BindingConfig

structure KnxKeypadButtonBinding where
  deviceId : DeviceId
  controlId : String
  ga : String
  dpt : String
deriving DecidableEq

def ProtocolBinding.entry (binding : ProtocolBinding) : KnxDeviceBinding :=
  let config := binding.config
  let declared := config.statusAddress.asText
  let extra := (config.extraStatusAddresses.getD []).filterMap JsValue.asText
  { deviceId := binding.deviceId, capability := binding.capability, writeGa := binding.address
    statusGa := declared.getD binding.address
    extraStatusGas := extra
    feedbackGas :=
      (if hasAttributableFeedback binding.capability binding.address declared
          (decide (config.feedbackOnCommandAddress = .primitive (.boolean true))) then
        [declared.getD binding.address]
      else []) ++ extra.filter fun ga => decide (ga ≠ binding.address)
    dpt := config.dpt.asText.getD (defaultDpt binding.capability)
    config := config }

/-- The two functions that the driver subscribes, with what they close over. -/
inductive Handler where
  | observe (binding : KnxDeviceBinding) (ga : String)
  | observeKeypadButton (button : KnxKeypadButtonBinding)

structure Observer where
  dpt : String
  handler : Handler

abbrev Observers := Multimap String Observer

def subscribe (observers : Observers) (ga dpt : String) (handler : Handler) : Observers :=
  observers.add ga ⟨dpt, handler⟩

structure SupremeKnxDriver where
  bindings : List KnxDeviceBinding
  keypadButtons : List KnxKeypadButtonBinding
  connected : Bool
  observers : Observers

namespace SupremeKnxDriver

def initial : SupremeKnxDriver where
  bindings := []
  keypadButtons := []
  connected := false
  observers := OrderedMap.empty

def observe (observers : Observers) (binding : KnxDeviceBinding) : Observers :=
  binding.feedbackGas.foldl
    (fun observers ga => subscribe observers ga binding.dpt (.observe binding ga)) observers

def observeKeypadButton (observers : Observers) (button : KnxKeypadButtonBinding) : Observers :=
  subscribe observers button.ga button.dpt (.observeKeypadButton button)

variable (driver : SupremeKnxDriver)

/-- The call fails if the provider cannot connect. -/
def connect (succeeds : Bool) : SupremeKnxDriver :=
  if driver.connected then driver
  else if succeeds then
    { driver with
      connected := true
      observers :=
        driver.keypadButtons.foldl observeKeypadButton
          (driver.bindings.foldl observe driver.observers) }
  else driver

/-- The call fails if the provider cannot end its connection. -/
def disconnect (succeeds : Bool) : SupremeKnxDriver :=
  if succeeds then { driver with connected := false } else driver

def bind (binding : ProtocolBinding) : SupremeKnxDriver :=
  let entry := binding.entry
  { driver with
    bindings := driver.bindings ++ [entry]
    observers := if driver.connected then observe driver.observers entry else driver.observers }

def bindKeypadButton (deviceId : DeviceId) (controlId ga dpt : String) : SupremeKnxDriver :=
  let entry : KnxKeypadButtonBinding := ⟨deviceId, controlId, ga, dpt⟩
  { driver with
    keypadButtons :=
      match driver.keypadButtons.findIdx? fun button =>
          decide (button.deviceId = deviceId ∧ button.controlId = controlId) with
      | some existing => driver.keypadButtons.set existing entry
      | none => driver.keypadButtons ++ [entry]
    observers :=
      if driver.connected then observeKeypadButton driver.observers entry else driver.observers }

/-- Whether something bound still watches an address. -/
def stillUsed (bindings : List KnxDeviceBinding) (keypadButtons : List KnxKeypadButtonBinding)
    (ga : String) : Bool :=
  bindings.any (fun binding => decide (ga ∈ binding.feedbackGas)) ||
    keypadButtons.any fun button => decide (button.ga = ga)

def unbind (deviceId : DeviceId) : SupremeKnxDriver :=
  let removed := driver.bindings.filter fun binding => decide (binding.deviceId = deviceId)
  let removedButtons := driver.keypadButtons.filter fun button =>
    decide (button.deviceId = deviceId)
  let bindings := driver.bindings.filter fun binding => decide (binding.deviceId ≠ deviceId)
  let keypadButtons := driver.keypadButtons.filter fun button => decide (button.deviceId ≠ deviceId)
  -- An address that is released twice is unsubscribed twice, which changes nothing.
  let releasedGas :=
    removed.flatMap KnxDeviceBinding.feedbackGas ++ removedButtons.map KnxKeypadButtonBinding.ga
  { driver with
    bindings := bindings
    keypadButtons := keypadButtons
    observers :=
      driver.observers.dropWhere (fun ga => !stillUsed bindings keypadButtons ga) releasedGas }

structure Delivery where
  handler : Handler
  value : JsValue

abbrev Buffer := List UInt8

/-- A group write or response reaches the observers of its address, each with its own decoding. -/
def telegram (fromBuffer : String → Buffer → JsValue) (driver : SupremeKnxDriver) (ga : String)
    (raw : Buffer) : List Delivery :=
  (driver.observers.listAt ga).map fun observer => ⟨observer.handler, fromBuffer observer.dpt raw⟩

/-- What the handler of a button tells the listeners. -/
def inputEvent (now : String) (delivery : Delivery) : Option KeypadInputEvent :=
  match delivery.handler, delivery.value with
  | .observeKeypadButton button, .primitive (.boolean value) =>
    some
      { keypadId := button.deviceId, control := button.controlId, ts := now
        gesture := if value then .buttonPressed else .buttonReleased }
  | _, _ => none

def inputEvents (fromBuffer : String → Buffer → JsValue) (now : String) (driver : SupremeKnxDriver)
    (ga : String) (raw : Buffer) : List KeypadInputEvent :=
  (driver.telegram fromBuffer ga raw).filterMap (inputEvent now)

end SupremeKnxDriver

end SupremeOs.Knx
