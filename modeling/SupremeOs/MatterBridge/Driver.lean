import SupremeOs.MatterBridge.DeviceTypes
import SupremeOs.MatterBridge.EndpointIdentity

/-!
# The driver of the bridge

The driver shows devices and buttons of keypads as Matter endpoints.  It keeps
what is shown in indexes in both directions, under the numbers that the
registry has given out, and shows again at a start what the registry records.

Every call of the server, of the port to the home and of the file behind the
registry may reject; with which message is part of the input.  A call of the
driver is made when the one before it is done.  Logging is left out.
-/

namespace SupremeOs.MatterBridge

open Support DomainModel

structure BridgedDevice where
  id : SupremeId "dev"
  name : String
  capabilities : List DeclaredCapability
  kind : Option SupremeDeviceType

structure KeypadControl where
  id : String
  named : id ≠ ""
  kind : KeypadControlKind
  label : Option String

structure Keypad where
  id : SupremeId "dev"
  name : String
  declaration : Option (List KeypadControl)

structure ButtonIdentity where
  keypadId : String
  controlId : String

structure MatterBridgeDriver where
  store : MatterEndpointStore
  exposedDevices : OrderedMap Nat String
  endpointByDevice : OrderedMap String Nat
  deviceTypeByEndpoint : OrderedMap Nat MatterDeviceTypeDefinition
  /-- The kinds as they were listed. -/
  capabilityKindsByEndpoint : OrderedMap Nat (List String)
  exposedButtons : OrderedMap Nat ButtonIdentity
  endpointByButton : OrderedMap String Nat
  /-- The text of the state that was last handed to the server. -/
  lastReported : OrderedMap Nat String
  subscribed : Bool
  started : Bool

/-- The messages of the calls that reject while something is exposed. -/
structure ExposeCalls where
  store : Option String
  getState : Option String
  addEndpoint : Option String
  updateEndpointName : Option String

structure ForgetCalls where
  removeEndpoint : Option String
  store : Option String

/-- The calls for an item of a pass, whether it is exposed or taken away. -/
structure ItemCalls where
  expose : ExposeCalls
  removeEndpoint : Option String

structure ReexposeCalls where
  getState : Option String
  addEndpoint : Option String

structure StartCalls where
  start : Option String
  /-- Of the mapping with this number. -/
  reexpose : Nat → ReexposeCalls

/-- What a call of the driver returns or throws, and the driver after it. -/
abbrev Outcome (Result : Type) := Except String Result × MatterBridgeDriver

namespace MatterBridgeDriver

def constructed (store : MatterEndpointStore) : MatterBridgeDriver :=
  ⟨store, .empty, .empty, .empty, .empty, .empty, .empty, .empty, false, false⟩

def writes (key name : String) (capabilityKinds : List String) (store : MatterEndpointStore) :
    Bool :=
  match store.get key with
  | some existing =>
    decide (existing.name ≠ name ∨ existing.capabilityKinds ≠ capabilityKinds)
  | none => true

/-- What is left of a write that throws: the mappings have changed, the file has not. -/
def unsaved (before after : MatterEndpointStore) : MatterEndpointStore :=
  { after with file := before.file }

def resolved (deviceId : SupremeId "dev") (controlId : Option String) (deviceTypeId : JsNumber)
    (name : String) (capabilityKinds : List String) (rejected : Option String)
    (driver : MatterBridgeDriver) : Outcome MatterEndpointMapping :=
  let (store, mapping) :=
    resolveInternal driver.store deviceId controlId deviceTypeId name capabilityKinds
  match rejected with
  | some message =>
    if writes (matterEndpointKey deviceId.text controlId) name capabilityKinds driver.store then
      (.error message, { driver with store := unsaved driver.store store })
    else (.ok mapping, { driver with store := store })
  | none => (.ok mapping, { driver with store := store })

/-- `registry.remove`. -/
def removeRecord (key : String) (rejected : Option String) (driver : MatterBridgeDriver) :
    Outcome Unit :=
  match rejected with
  | some message =>
    (.error message, { driver with store := unsaved driver.store (driver.store.remove key) })
  | none => (.ok (), { driver with store := driver.store.remove key })

def effectiveType (types : MatterDeviceTypeRegistry) (mapping : MatterEndpointMapping)
    (deviceType : MatterDeviceTypeDefinition) : MatterDeviceTypeDefinition :=
  (types.get mapping.deviceTypeId).getD deviceType

def trackDevice (mapping : MatterEndpointMapping) (deviceId : String)
    (deviceType : MatterDeviceTypeDefinition) (driver : MatterBridgeDriver) :
    MatterBridgeDriver :=
  { driver with
    exposedDevices := driver.exposedDevices.set mapping.endpointNumber deviceId
    endpointByDevice := driver.endpointByDevice.set deviceId mapping.endpointNumber
    deviceTypeByEndpoint := driver.deviceTypeByEndpoint.set mapping.endpointNumber deviceType
    capabilityKindsByEndpoint :=
      driver.capabilityKindsByEndpoint.set mapping.endpointNumber mapping.capabilityKinds }

def trackButton (mapping : MatterEndpointMapping) (identity : ButtonIdentity)
    (deviceType : MatterDeviceTypeDefinition) (driver : MatterBridgeDriver) :
    MatterBridgeDriver :=
  { driver with
    exposedButtons := driver.exposedButtons.set mapping.endpointNumber identity
    endpointByButton :=
      driver.endpointByButton.set (matterEndpointKey identity.keypadId (some identity.controlId))
        mapping.endpointNumber
    deviceTypeByEndpoint := driver.deviceTypeByEndpoint.set mapping.endpointNumber deviceType }

def noPrimaryCapability (deviceType : MatterDeviceTypeDefinition) : String :=
  "matter-bridge: device type " ++ deviceType.name ++
    " has no primaryCapability — cannot be exposed via exposeDevice()"

def supported (deviceType : MatterDeviceTypeDefinition) : MatterDeviceTypeResolution :=
  ⟨.supported, some deviceType, none⟩

def exposeDevice (types : MatterDeviceTypeRegistry) (device : BridgedDevice)
    (calls : ExposeCalls) (driver : MatterBridgeDriver) : Outcome MatterDeviceTypeResolution :=
  let resolution := resolveMatterDeviceType device.capabilities types device.kind
  match resolution.supportedType with
  | none => (.ok resolution, driver)
  | some deviceType =>
    let capabilityKinds := device.capabilities.map fun capability => capability.kind.literal
    match driver.resolved device.id none deviceType.id device.name capabilityKinds
      calls.store with
    | (.error message, left) => (.error message, left)
    | (.ok mapping, recorded) =>
      let effective := effectiveType types mapping deviceType
      if effective.primaryCapability.isNone then
        (.error (noPrimaryCapability effective), recorded)
      else
        match calls.getState <|> calls.addEndpoint <|> calls.updateEndpointName with
        | some message => (.error message, recorded)
        | none =>
          (.ok (supported effective), recorded.trackDevice mapping device.id.text effective)

def buttonKey (keypad : Keypad) (control : KeypadControl) : String :=
  matterEndpointKey keypad.id.text (some control.id)

def exposeKeypadButton (types : MatterDeviceTypeRegistry) (keypad : Keypad)
    (control : KeypadControl) (calls : ExposeCalls) (driver : MatterBridgeDriver) :
    Outcome MatterDeviceTypeResolution :=
  let resolution := resolveKeypadControlDeviceType control.kind types
  match resolution.supportedType with
  | none => (.ok resolution, driver)
  | some deviceType =>
    let name := control.label.getD (keypad.name ++ " — " ++ control.id)
    match driver.resolved keypad.id (some control.id) deviceType.id name [] calls.store with
    | (.error message, left) => (.error message, left)
    | (.ok mapping, recorded) =>
      let effective := effectiveType types mapping deviceType
      match calls.addEndpoint <|> calls.updateEndpointName with
      | some message => (.error message, recorded)
      | none =>
        (.ok (supported effective),
          recorded.trackButton mapping ⟨keypad.id.text, control.id⟩ effective)

def removeLight (deviceId : String) (rejected : Option String) (driver : MatterBridgeDriver) :
    Outcome Unit :=
  match driver.endpointByDevice.get deviceId, rejected with
  | none, _ => (.ok (), driver)
  | some _, some message => (.error message, driver)
  | some endpointNumber, none =>
    (.ok (), { driver with
        exposedDevices := driver.exposedDevices.delete endpointNumber
        endpointByDevice := driver.endpointByDevice.delete deviceId
        deviceTypeByEndpoint := driver.deviceTypeByEndpoint.delete endpointNumber
        capabilityKindsByEndpoint := driver.capabilityKindsByEndpoint.delete endpointNumber
        lastReported := driver.lastReported.delete endpointNumber })

def forgetDevice (deviceId : String) (calls : ForgetCalls) (driver : MatterBridgeDriver) :
    Outcome Unit :=
  match driver.removeLight deviceId calls.removeEndpoint with
  | (.error message, left) => (.error message, left)
  | (.ok _, removed) => removed.removeRecord (matterEndpointKey deviceId none) calls.store

def removeKeypadButton (keypadId controlId : String) (rejected : Option String)
    (driver : MatterBridgeDriver) : Outcome Unit :=
  let key := matterEndpointKey keypadId (some controlId)
  match driver.endpointByButton.get key, rejected with
  | none, _ => (.ok (), driver)
  | some _, some message => (.error message, driver)
  | some endpointNumber, none =>
    (.ok (), { driver with
        exposedButtons := driver.exposedButtons.delete endpointNumber
        endpointByButton := driver.endpointByButton.delete key
        deviceTypeByEndpoint := driver.deviceTypeByEndpoint.delete endpointNumber })

def forgetKeypadButton (keypadId controlId : String) (calls : ForgetCalls)
    (driver : MatterBridgeDriver) : Outcome Unit :=
  match driver.removeKeypadButton keypadId controlId calls.removeEndpoint with
  | (.error message, left) => (.error message, left)
  | (.ok _, removed) =>
    removed.removeRecord (matterEndpointKey keypadId (some controlId)) calls.store

structure ReconcileResult (Item : Type) where
  added : List Item
  updated : List Item
  removed : List Item
  unsupported : List (Item × String)
  failed : List (Item × String)

def noResult {Item : Type} : ReconcileResult Item := ⟨[], [], [], [], []⟩

section Results

variable {Item : Type} (item : Item)

def noteExposed (wasExposed : Bool) (resolution : MatterDeviceTypeResolution)
    (result : ReconcileResult Item) : ReconcileResult Item :=
  match resolution.outcome with
  | .supported =>
    if wasExposed then { result with updated := result.updated ++ [item] }
    else { result with added := result.added ++ [item] }
  | .degraded | .unknown | .unsupported =>
    { result with
      unsupported := result.unsupported ++ [(item, resolution.reason.getD "unsupported")] }

def noteRemoved (outcome : Except String Unit) (result : ReconcileResult Item) :
    ReconcileResult Item :=
  match outcome with
  | .ok _ => { result with removed := result.removed ++ [item] }
  | .error message => { result with failed := result.failed ++ [(item, message)] }

def noteFailed (message : String) (result : ReconcileResult Item) : ReconcileResult Item :=
  { result with failed := result.failed ++ [(item, message)] }

end Results

/-- A listed item was exposed or was not; it is taken away if it no longer can be. -/
def reconcileItem {Item : Type} (item : Item) (wasExposed : Bool)
    (remove : MatterBridgeDriver → Outcome Unit) (result : ReconcileResult Item) :
    Outcome MatterDeviceTypeResolution → ReconcileResult Item × MatterBridgeDriver
  | (.error message, left) => (noteFailed item message result, left)
  | (.ok resolution, exposed) =>
    let noted := noteExposed item wasExposed resolution result
    if resolution.outcome ≠ .supported && wasExposed then
      match remove exposed with
      | (outcome, left) => (noteRemoved item outcome noted, left)
    else (noted, exposed)

/-- One turn of the first loop of `reconcile`. -/
def reconcileDevice (types : MatterDeviceTypeRegistry)
    (turn : ReconcileResult String × MatterBridgeDriver) (entry : BridgedDevice × ItemCalls) :
    ReconcileResult String × MatterBridgeDriver :=
  let (result, driver) := turn
  let id := entry.1.id.text
  reconcileItem id (driver.endpointByDevice.has id) (removeLight id entry.2.removeEndpoint) result
    (driver.exposeDevice types entry.1 entry.2.expose)

/-- One device that is exposed and not listed. -/
def forgetUnlisted (forgetting : String → ForgetCalls)
    (turn : ReconcileResult String × MatterBridgeDriver) (deviceId : String) :
    ReconcileResult String × MatterBridgeDriver :=
  match turn.2.forgetDevice deviceId (forgetting deviceId) with
  | (outcome, left) => (noteRemoved deviceId outcome turn.1, left)

def reconcile (types : MatterDeviceTypeRegistry) (devices : List (BridgedDevice × ItemCalls))
    (forgetting : String → ForgetCalls) (driver : MatterBridgeDriver) :
    ReconcileResult String × MatterBridgeDriver :=
  let desiredIds := devices.map fun entry => entry.1.id.text
  let exposed := devices.foldl (reconcileDevice types) (noResult, driver)
  (exposed.2.endpointByDevice.keys.filter fun id => decide (id ∉ desiredIds)).foldl
    (forgetUnlisted forgetting) exposed

def controlsOf (keypads : List (Keypad × (KeypadControl → ItemCalls))) :
    List (Keypad × KeypadControl × ItemCalls) :=
  keypads.flatMap fun entry =>
    (entry.1.declaration.getD []).map fun control => (entry.1, control, entry.2 control)

/-- One turn of the first loop of `reconcileKeypads`. -/
def reconcileButton (types : MatterDeviceTypeRegistry)
    (turn : ReconcileResult ButtonIdentity × MatterBridgeDriver)
    (entry : Keypad × KeypadControl × ItemCalls) :
    ReconcileResult ButtonIdentity × MatterBridgeDriver :=
  let (result, driver) := turn
  let (keypad, control, calls) := entry
  reconcileItem ⟨keypad.id.text, control.id⟩
    (driver.endpointByButton.has (buttonKey keypad control))
    (removeKeypadButton keypad.id.text control.id calls.removeEndpoint) result
    (driver.exposeKeypadButton types keypad control calls.expose)

def forgetUnlistedButton (forgetting : String → ForgetCalls)
    (turn : ReconcileResult ButtonIdentity × MatterBridgeDriver) (entry : String × Nat) :
    ReconcileResult ButtonIdentity × MatterBridgeDriver :=
  match turn.2.exposedButtons.get entry.2 with
  | none => turn
  | some identity =>
    match turn.2.forgetKeypadButton identity.keypadId identity.controlId
        (forgetting entry.1) with
    | (outcome, left) => (noteRemoved identity outcome turn.1, left)

def reconcileKeypads (types : MatterDeviceTypeRegistry)
    (keypads : List (Keypad × (KeypadControl → ItemCalls))) (forgetting : String → ForgetCalls)
    (driver : MatterBridgeDriver) : ReconcileResult ButtonIdentity × MatterBridgeDriver :=
  let controls := controlsOf keypads
  let desiredKeys := controls.map fun entry => buttonKey entry.1 entry.2.1
  let exposed := controls.foldl (reconcileButton types) (noResult, driver)
  (exposed.2.endpointByButton.entries.filter fun entry => decide (entry.1 ∉ desiredKeys)).foldl
    (forgetUnlistedButton forgetting) exposed

/-- One mapping of the registry is shown again, unless its type is not known or a call fails. -/
def reexpose (types : MatterDeviceTypeRegistry) (calls : Nat → ReexposeCalls)
    (driver : MatterBridgeDriver) (mapping : MatterEndpointMapping) : MatterBridgeDriver :=
  match types.get mapping.deviceTypeId with
  | none => driver
  | some deviceType =>
    let called := calls mapping.endpointNumber
    let read := if deviceType.primaryCapability.isSome then called.getState else none
    match read <|> called.addEndpoint, namedControl mapping.controlId with
    | some _, _ => driver
    | none, some control =>
      { driver.trackButton mapping ⟨mapping.deviceId, control⟩ deviceType with
        capabilityKindsByEndpoint :=
          driver.capabilityKindsByEndpoint.set mapping.endpointNumber
            mapping.capabilityKinds }
    | none, none => driver.trackDevice mapping mapping.deviceId deviceType

def start (types : MatterDeviceTypeRegistry) (calls : StartCalls) (driver : MatterBridgeDriver) :
    Outcome Unit :=
  if driver.started then (.ok (), driver)
  else
    match calls.start with
    | some message => (.error message, driver)
    | none =>
      let reexposed := driver.store.list.foldl (reexpose types calls.reexpose) driver
      (.ok (), { reexposed with subscribed := true, started := true })

def stop (rejected : Option String) (driver : MatterBridgeDriver) : Outcome Unit :=
  match rejected with
  | some message => (.error message, { driver with subscribed := false })
  | none => (.ok (), { driver with subscribed := false, started := false })

end MatterBridgeDriver

inductive BridgeLabel where
  | start (calls : StartCalls)
  | stop (rejected : Option String)
  | exposeDevice (device : BridgedDevice) (calls : ExposeCalls)
  | removeLight (deviceId : SupremeId "dev") (rejected : Option String)
  | reconcile (devices : List (BridgedDevice × ItemCalls)) (forgetting : String → ForgetCalls)
  | reconcileKeypads (keypads : List (Keypad × (KeypadControl → ItemCalls)))
      (forgetting : String → ForgetCalls)

namespace MatterBridgeDriver

def step (types : MatterDeviceTypeRegistry) (driver : MatterBridgeDriver) :
    BridgeLabel → MatterBridgeDriver
  | .start calls => (driver.start types calls).2
  | .stop rejected => (driver.stop rejected).2
  | .exposeDevice device calls => (driver.exposeDevice types device calls).2
  | .removeLight deviceId rejected => (driver.removeLight deviceId.text rejected).2
  | .reconcile devices forgetting => (driver.reconcile types devices forgetting).2
  | .reconcileKeypads keypads forgetting => (driver.reconcileKeypads types keypads forgetting).2

def bridgeMachine (types : MatterDeviceTypeRegistry) : Machine MatterBridgeDriver BridgeLabel :=
  ⟨fun driver label => some (driver.step types label)⟩

end MatterBridgeDriver

end SupremeOs.MatterBridge
