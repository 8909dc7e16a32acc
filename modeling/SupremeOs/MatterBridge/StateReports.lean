import SupremeOs.DomainModel.JsonReader
import SupremeOs.MatterBridge.Driver

/-!
# States on their way to Matter

The driver reads the state of a device when it shows it, and hands every state
that is reported later to the server, unless its text is the one that it handed
over last for the endpoint.  Here the calls of the driver overlap: whatever it
waits for may end in any order, while states are reported and writes end.

The server is as its interface says: an endpoint that is added again stays as
it is, and a write that succeeds changes the attributes of the written kind.
Writes that succeed take effect in the order of the calls; whether a write will
be rejected is noted with it from the start.  A state is read or reported for
the capability of its own kind.

What has happened is recorded, the newest first, beside the state.
-/

namespace SupremeOs.MatterBridge

open Support DomainModel

/-- A state of a capability, a record of JSON values that names its kind. -/
structure BridgedState where
  kind : CapabilityKind
  json : Json
  tagged : json.member "kind" = some (.text kind.literal)

/-- `JSON.stringify(state)`. -/
def BridgedState.serialized (state : BridgedState) : String :=
  String.ofList state.json.stringify

theorem BridgedState.serialized_injective : Function.Injective BridgedState.serialized := by
  intro left right same
  have texts := String.ofList_injective same
  have jsons : left.json = right.json := by
    have parsed := congrArg Json.parse texts
    rw [Json.parse_stringify, Json.parse_stringify] at parsed
    exact Option.some.inj parsed
  rcases left with ⟨kind, json, tagged⟩
  rcases right with ⟨other, otherJson, otherTagged⟩
  obtain rfl : json = otherJson := jsons
  have kinds := Option.some.inj (tagged.symm.trans otherTagged)
  obtain rfl := CapabilityKind.literal_injective (Json.text.inj kinds)
  rfl

instance : DecidableEq BridgedState := fun left right =>
  decidable_of_iff (left.serialized = right.serialized)
    BridgedState.serialized_injective.eq_iff

abbrev Attributes := OrderedMap CapabilityKind BridgedState

/-- A `setCapabilityState` under way. -/
structure AttributeWrite where
  endpointNumber : Nat
  state : BridgedState
  rejects : Bool

def initialAttributes : Option BridgedState → Attributes
  | none => .empty
  | some state => OrderedMap.empty.set state.kind state

def addEndpoint (endpoints : OrderedMap Nat Attributes) (endpointNumber : Nat)
    (initialState : Option BridgedState) : OrderedMap Nat Attributes :=
  if endpoints.has endpointNumber then endpoints
  else endpoints.set endpointNumber (initialAttributes initialState)

def AttributeWrite.apply (write : AttributeWrite) (endpoints : OrderedMap Nat Attributes) :
    OrderedMap Nat Attributes :=
  match endpoints.get write.endpointNumber with
  | none => endpoints
  | some attributes =>
    endpoints.set write.endpointNumber (attributes.set write.state.kind write.state)

/-- One endpoint on its way to being shown. -/
structure Turn where
  deviceId : String
  mapping : MatterEndpointMapping
  deviceType : MatterDeviceTypeDefinition
  /-- The mappings that follow, if it is a turn of `start`. -/
  rest : Option (List MatterEndpointMapping)

/-- The control that is shown; a device has none. -/
def Turn.control (turn : Turn) : Option String :=
  turn.rest.bind fun _ => namedControl turn.mapping.controlId

inductive Waiting where
  | starting
  | reading (turn : Turn) (capability : CapabilityKind)
  | adding (turn : Turn) (initialState : Option BridgedState)
  | naming (turn : Turn)

/-- What became of a reported state. -/
inductive Handled where
  | ignored
  | skipped
  | written (rejected : Bool)
deriving DecidableEq

inductive Moment where
  /-- The state that was read for a turn, if there was one. -/
  | read (turn : Nat) (deviceId : String) (state : Option BridgedState)
  | exposed (turn : Nat)
  | reported (deviceId : String) (state : BridgedState) (handled : Handled)
deriving DecidableEq

structure ReportingBridge where
  driver : MatterBridgeDriver
  /-- How often the driver has subscribed to states. -/
  listeners : Nat
  waiting : OrderedMap Nat Waiting
  nextTurn : Nat
  endpoints : OrderedMap Nat Attributes
  /-- In the order of the calls. -/
  writes : List AttributeWrite
  history : List Moment

namespace ReportingBridge

/-- A driver that nothing has been asked of, and a server without endpoints. -/
def created (store : MatterEndpointStore) : ReportingBridge :=
  ⟨MatterBridgeDriver.constructed store, 0, .empty, 0, .empty, [], []⟩

def wait (waiting : Waiting) (bridge : ReportingBridge) : ReportingBridge :=
  { bridge with
    waiting := bridge.waiting.set bridge.nextTurn waiting
    nextTurn := bridge.nextTurn + 1 }

def goOn (turn : Nat) (waiting : Waiting) (bridge : ReportingBridge) : ReportingBridge :=
  { bridge with waiting := bridge.waiting.set turn waiting }

def done (turn : Nat) (bridge : ReportingBridge) : ReportingBridge :=
  { bridge with waiting := bridge.waiting.delete turn }

def record (moment : Moment) (bridge : ReportingBridge) : ReportingBridge :=
  { bridge with history := moment :: bridge.history }

def beginTurn (turn : Turn) (bridge : ReportingBridge) : ReportingBridge :=
  match turn.deviceType.primaryCapability with
  | some capability => bridge.wait (.reading turn capability)
  | none => (bridge.wait (.adding turn none)).record (.read bridge.nextTurn turn.deviceId none)

/-- The loop of `start` over the mappings, and what comes after it. -/
def continueStart (types : MatterDeviceTypeRegistry) :
    List MatterEndpointMapping → ReportingBridge → ReportingBridge
  | [], bridge =>
    { bridge with
      listeners := bridge.listeners + 1
      driver := { bridge.driver with subscribed := true, started := true } }
  | mapping :: rest, bridge =>
    match types.get mapping.deviceTypeId with
    | none => continueStart types rest bridge
    | some deviceType => bridge.beginTurn ⟨mapping.deviceId, mapping, deviceType, some rest⟩

/-- A turn has ended, well or not. -/
def leave (types : MatterDeviceTypeRegistry) (turn : Turn) (bridge : ReportingBridge) :
    ReportingBridge :=
  match turn.rest with
  | none => bridge
  | some rest => continueStart types rest bridge

def exposeDevice (types : MatterDeviceTypeRegistry) (device : BridgedDevice)
    (rejected : Option String) (bridge : ReportingBridge) : ReportingBridge :=
  match (resolveMatterDeviceType device.capabilities types device.kind).supportedType with
  | none => bridge
  | some deviceType =>
    let capabilityKinds := device.capabilities.map fun capability => capability.kind.literal
    match bridge.driver.resolved device.id none deviceType.id device.name capabilityKinds
        rejected with
    | (.error _, left) => { bridge with driver := left }
    | (.ok mapping, recorded) =>
      let effective := MatterBridgeDriver.effectiveType types mapping deviceType
      let resolved := { bridge with driver := recorded }
      if effective.primaryCapability.isNone then resolved
      else resolved.beginTurn ⟨device.id.text, mapping, effective, none⟩

/-- The endpoint of a turn is entered into the indexes. -/
def track (number : Nat) (turn : Turn) (bridge : ReportingBridge) : ReportingBridge :=
  match turn.control with
  | some control =>
    let tracked := bridge.driver.trackButton turn.mapping ⟨turn.deviceId, control⟩
      turn.deviceType
    { bridge with
      driver := { tracked with
        capabilityKindsByEndpoint := tracked.capabilityKindsByEndpoint.set
          turn.mapping.endpointNumber turn.mapping.capabilityKinds } }
  | none =>
    { bridge with
      driver := bridge.driver.trackDevice turn.mapping turn.deviceId turn.deviceType
      history := .exposed number :: bridge.history }

/-- Whether an endpoint declares a capability; one without a list has that of its type. -/
def declares (driver : MatterBridgeDriver) (endpointNumber : Nat) (kind : CapabilityKind) :
    Bool :=
  let kinds := (driver.capabilityKindsByEndpoint.get endpointNumber).getD []
  if kinds ≠ [] then decide (kind.literal ∈ kinds)
  else
    (driver.deviceTypeByEndpoint.get endpointNumber).any fun deviceType =>
      decide (deviceType.primaryCapability = some kind)

/-- The state is noted as the last one before it is known whether the server takes it. -/
def handOver (endpointNumber : Nat) (state : BridgedState) (rejects : Bool)
    (bridge : ReportingBridge) : ReportingBridge :=
  { bridge with
    driver := { bridge.driver with
      lastReported := bridge.driver.lastReported.set endpointNumber state.serialized }
    writes := bridge.writes ++ [⟨endpointNumber, state, rejects⟩] }

def handleSupremeStateChange (deviceId : String) (state : BridgedState) (rejects : Bool)
    (bridge : ReportingBridge) : Handled × ReportingBridge :=
  match bridge.driver.endpointByDevice.get deviceId with
  | none => (.ignored, bridge)
  | some endpointNumber =>
    match bridge.driver.deviceTypeByEndpoint.get endpointNumber with
    | none => (.ignored, bridge)
    | some _ =>
      if ¬declares bridge.driver endpointNumber state.kind then (.ignored, bridge)
      else if bridge.driver.lastReported.get endpointNumber = some state.serialized then
        (.skipped, bridge)
      else
        (.written rejects, bridge.handOver endpointNumber state rejects)

/-- Every subscription is told; what became of the state is what the first one did with it. -/
def tell (deviceId : String) (state : BridgedState) (rejects : Bool) :
    Nat → ReportingBridge → Handled × ReportingBridge
  | 0, bridge => (.ignored, bridge)
  | listeners + 1, bridge =>
    let (handled, first) := bridge.handleSupremeStateChange deviceId state rejects
    (handled,
      (fun told => (handleSupremeStateChange deviceId state rejects told).2)^[listeners] first)

def settle (write : AttributeWrite) (index : Nat) (bridge : ReportingBridge) : ReportingBridge :=
  { bridge with
    writes := bridge.writes.eraseIdx index
    endpoints := if write.rejects then bridge.endpoints else write.apply bridge.endpoints }

end ReportingBridge

/-- What a call under way is told; a turn or a write is meant by its number. -/
inductive ReportLabel where
  | exposeDevice (device : BridgedDevice) (rejected : Option String)
  | start
  | serverStarted (call : Nat) (rejected : Option String)
  | stateRead (turn : Nat) (answer : Except String (Option BridgedState))
  | endpointAdded (turn : Nat) (rejected : Option String)
  | nameUpdated (turn : Nat) (rejected : Option String)
  | reported (deviceId : String) (state : BridgedState) (rejects : Bool)
  | settled (index : Nat)

namespace ReportingBridge

/-- `none` if nothing waits for what has happened. -/
def step (types : MatterDeviceTypeRegistry) (bridge : ReportingBridge) :
    ReportLabel → Option ReportingBridge
  | .exposeDevice device rejected => some (bridge.exposeDevice types device rejected)
  | .start => some (if bridge.driver.started then bridge else bridge.wait .starting)
  | .serverStarted call rejected =>
    match bridge.waiting.get call with
    | some .starting =>
      match rejected with
      | some _ => some (bridge.done call)
      | none => some ((bridge.done call).continueStart types bridge.driver.store.list)
    | _ => none
  | .stateRead number answer =>
    match bridge.waiting.get number with
    | some (.reading turn capability) =>
      match answer with
      | .error _ => some ((bridge.done number).leave types turn)
      | .ok state =>
        if ∀ found ∈ state, found.kind = capability then
          some ((bridge.goOn number (.adding turn state)).record (.read number turn.deviceId state))
        else none
    | _ => none
  | .endpointAdded number rejected =>
    match bridge.waiting.get number with
    | some (.adding turn initialState) =>
      match rejected with
      | some _ => some ((bridge.done number).leave types turn)
      | none =>
        let added := { bridge with
          endpoints :=
            addEndpoint bridge.endpoints turn.mapping.endpointNumber initialState }
        match turn.rest with
        | none => some (added.goOn number (.naming turn))
        | some _ => some (((added.track number turn).done number).leave types turn)
    | _ => none
  | .nameUpdated number rejected =>
    match bridge.waiting.get number with
    | some (.naming turn) =>
      match rejected with
      | some _ => some (bridge.done number)
      | none => some ((bridge.track number turn).done number)
    | _ => none
  | .reported deviceId state rejects =>
    let (handled, told) := bridge.tell deviceId state rejects bridge.listeners
    some (told.record (.reported deviceId state handled))
  | .settled index =>
    match bridge.writes[index]? with
    | none => none
    | some write =>
      -- A write that succeeds waits for the earlier ones that succeed.
      if write.rejects || (bridge.writes.take index).all AttributeWrite.rejects then
        some (bridge.settle write index)
      else none

def machine (types : MatterDeviceTypeRegistry) : Machine ReportingBridge ReportLabel :=
  ⟨step types⟩

end ReportingBridge

end SupremeOs.MatterBridge
