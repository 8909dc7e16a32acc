import SupremeOs.IntentEngine.CapabilityIndex
import SupremeOs.Support.Interleaving

/-!
# The home service

Rooms and devices are kept in a store whose calls are atomic and take effect
when the operation that awaits them goes on; what has been read is a snapshot.
Nearly every operation reads a device and writes the whole of it back, a state
delta reads a device and writes all its states back.

The capability index listens to the events of the service.  Calls are numbered
as they are made, and every write is recorded with the number of its call;
results and the registry of the integration layer are left out.
-/

namespace SupremeOs.Home

open Support DomainModel IntentEngine

structure StoredDevice where
  device : Device
  /-- Backend entities by capability kind. -/
  backendIds : OrderedMap String String
deriving DecidableEq

def DEVICE_LEVEL_BACKEND_ID_KEY : String := "__device__"

/-- What `updateDevice` changes; what is left out is `none`. -/
structure DevicePatch where
  name : Option String
  roomId : Option String
  metadata : Option (OrderedMap String JsValue)
deriving DecidableEq

/-- What an operation does to a device it has found. -/
inductive DeviceChange where
  /-- `applyState`. -/
  | reported (state : CapabilityState)
  /-- `updateDevice`. -/
  | patched (patch : DevicePatch)
  /-- `setDriverOwner`. -/
  | owned (driverId : String)
  /-- `moveDevices`, and `removeRoom`, which leaves a device without a room. -/
  | moved (roomId : Option String)
  /-- `setDeviceMetadata`. -/
  | metadataMerged (patch : OrderedMap String JsValue)
  /-- `setCapabilityConfig`. -/
  | configured (capability : CapabilityKind) (config : OrderedMap String JsValue)

/-- The device that is written back. -/
def DeviceChange.apply (device : Device) : DeviceChange → Device
  | .reported state => { device with state := device.state.set state.kind state }
  | .patched patch =>
    { device with
      name := patch.name.getD device.name
      roomId := patch.roomId.or device.roomId
      metadata := patch.metadata.elim device.metadata device.metadata.merge }
  | .owned driverId => { device with driverId := some driverId }
  | .moved roomId => { device with roomId := roomId }
  | .metadataMerged patch => { device with metadata := device.metadata.merge patch }
  | .configured capability config =>
    { device with
      capabilities := device.capabilities.map fun entry =>
        if entry.kind = capability then { entry with config := config } else entry }

@[simp]
theorem DeviceChange.apply_id (change : DeviceChange) (device : Device) :
    (change.apply device).id = device.id := by
  cases change <;> rfl

inductive DeviceRecord where
  /-- A device is put as a new one, by `addDevice` or as a clone. -/
  | added (device : Device)
  | changed (id : DeviceId) (change : DeviceChange)
  | removed (id : DeviceId)

inductive DeviceChangeEvent where
  | upsert (device : Device)
  | delete (deviceId : DeviceId)

structure HomeService where
  rooms : OrderedSet String
  devices : KeyedStore fun stored : StoredDevice => stored.device.id
  index : CapabilityIndex
  /-- How many identifiers have been handed out. -/
  drawn : Nat
  /-- How many calls have been made. -/
  calls : Nat
  history : List (Nat × DeviceRecord)

inductive HomeRequest where
  | addRoom (roomId : String)
  | removeRoom (roomId : String)
  | addDevice (device : Device) (backendIds : OrderedMap String String)
      (deviceBackendId : Option String)
  | applyState (deviceId : DeviceId) (state : CapabilityState)
  | updateDevice (deviceId : DeviceId) (patch : DevicePatch)
  | setDriverOwner (deviceId : DeviceId) (driverId : String)
  | cloneDevice (deviceId : DeviceId)
  | moveDevices (ids : List DeviceId) (roomId : String)
  | removeDevices (ids : List DeviceId)
  | removeDevice (deviceId : DeviceId)
  | setDeviceMetadata (deviceId : DeviceId) (patch : OrderedMap String JsValue)
  | setCapabilityConfig (deviceId : DeviceId) (capability : CapabilityKind)
      (config : OrderedMap String JsValue)

/-- Which operation awaits a device, and the devices it has still to go through. -/
inductive DeviceReader where
  | applyState (state : CapabilityState)
  | updateDevice (patch : DevicePatch)
  | setDriverOwner (driverId : String)
  | cloneDevice
  | moveDevices (rest : List DeviceId) (roomId : String)
  | removeDevices (rest : List DeviceId)
  | removeDevice
  | setDeviceMetadata (patch : OrderedMap String JsValue)
  | setCapabilityConfig (capability : CapabilityKind) (config : OrderedMap String JsValue)
  | removeRoom (rest : List DeviceId) (roomId : String)
deriving DecidableEq

/-- Which operation has to know that a room exists. -/
inductive RoomReader where
  | updateDevice (stored : StoredDevice) (patch : DevicePatch)
  | moveDevices (ids : List DeviceId)
  | removeRoom

/-- How an operation goes on when a device has been put. -/
inductive AfterPut where
  | returns
  | moveDevices (rest : List DeviceId) (roomId : String)
  | removeRoom (rest : List DeviceId) (roomId : String)

/-- The awaits of the operations, each with the number of its call. -/
inductive HomeCall where
  | getDevice (call : Nat) (id : DeviceId) (reader : DeviceReader)
  | getRoom (call : Nat) (roomId : String) (reader : RoomReader)
  | listDevices (call : Nat) (roomId : String)
  | putDevice (call : Nat) (stored : StoredDevice) (record : DeviceRecord) (after : AfterPut)
  | updateDeviceState (call : Nat) (id : DeviceId)
      (nextState : OrderedMap CapabilityKind CapabilityState) (state : CapabilityState)
  | unmapDevice (call : Nat) (id : DeviceId) (rest : List DeviceId)
  | deleteDevice (call : Nat) (id : DeviceId) (rest : List DeviceId)
  | putRoom (roomId : String)
  | deleteRoom (roomId : String)

inductive HomeReply where
  | resolved
  | rejected

def moveDevices (call : Nat) (roomId : String) : List DeviceId → List HomeCall
  | [] => []
  | id :: rest => [.getDevice call id (.moveDevices rest roomId)]

def removeDevices (call : Nat) : List DeviceId → List HomeCall
  | [] => []
  | id :: rest => [.getDevice call id (.removeDevices rest)]

/-- The next device to unassign; the room goes last. -/
def removeRoom (call : Nat) (roomId : String) : List DeviceId → List HomeCall
  | [] => [.deleteRoom roomId]
  | id :: rest => [.getDevice call id (.removeRoom rest roomId)]

/-- A device is to be written back with a change. -/
def StoredDevice.put (stored : StoredDevice) (call : Nat) (change : DeviceChange)
    (after : AfterPut) : HomeCall :=
  .putDevice call ⟨change.apply stored.device, stored.backendIds⟩
    (.changed stored.device.id change) after

/-- The copy of a device, which is bound to nothing. -/
def Device.clone (device : Device) (id : DeviceId) : StoredDevice where
  device :=
    { device with
      id := id
      name := device.name ++ " (copy)"
      state := OrderedMap.empty
      metadata := device.metadata.set "clonedFrom" (.primitive (.text device.id)) }
  backendIds := OrderedMap.empty

namespace HomeService

def start (home : HomeService) (request : HomeRequest) : HomeService × List HomeCall :=
  let call := home.calls
  ({ home with calls := call + 1 }, match request with
    | .addRoom roomId => [.putRoom roomId]
    | .removeRoom roomId => [.getRoom call roomId .removeRoom]
    | .addDevice device backendIds deviceBackendId =>
      let persistedBackendIds :=
        match deviceBackendId with
        | none => backendIds
        | some backendId =>
          if device.capabilities = [] ∧ backendId ≠ "" then
            backendIds.set DEVICE_LEVEL_BACKEND_ID_KEY backendId
          else backendIds
      [.putDevice call ⟨device, persistedBackendIds⟩ (.added device) .returns]
    | .applyState deviceId state => [.getDevice call deviceId (.applyState state)]
    | .updateDevice deviceId patch => [.getDevice call deviceId (.updateDevice patch)]
    | .setDriverOwner deviceId driverId => [.getDevice call deviceId (.setDriverOwner driverId)]
    | .cloneDevice deviceId => [.getDevice call deviceId .cloneDevice]
    | .moveDevices ids roomId => [.getRoom call roomId (.moveDevices ids)]
    | .removeDevices ids => removeDevices call ids
    | .removeDevice deviceId => [.getDevice call deviceId .removeDevice]
    | .setDeviceMetadata deviceId patch => [.getDevice call deviceId (.setDeviceMetadata patch)]
    | .setCapabilityConfig deviceId capability config =>
      [.getDevice call deviceId (.setCapabilityConfig capability config)])

/-- The listener of the index is told. -/
def emitChanged (home : HomeService) : DeviceChangeEvent → HomeService
  | .upsert device => { home with index := home.index.upsert device }
  | .delete deviceId => { home with index := home.index.remove deviceId }

def record (home : HomeService) (call : Nat) (entry : DeviceRecord) : HomeService :=
  { home with history := home.history ++ [(call, entry)] }

def putDevice (home : HomeService) (stored : StoredDevice) : HomeService :=
  { home with devices := home.devices.put stored }

/-- A device that is not stored is not found, or passed by. -/
def afterMissing (call : Nat) : DeviceReader → List HomeCall
  | .moveDevices rest roomId => moveDevices call roomId rest
  | .removeDevices rest => removeDevices call rest
  | .removeRoom rest roomId => removeRoom call roomId rest
  | .applyState _ | .updateDevice _ | .setDriverOwner _ | .cloneDevice | .removeDevice
  | .setDeviceMetadata _ | .setCapabilityConfig _ _ => []

/-- The next await of an operation that has read a device. -/
def afterFound (newId : DeviceId) (call : Nat) (stored : StoredDevice) :
    DeviceReader → List HomeCall
  | .applyState state =>
    [.updateDeviceState call stored.device.id (stored.device.state.set state.kind state) state]
  | .updateDevice patch =>
    match patch.roomId with
    | some roomId => [.getRoom call roomId (.updateDevice stored patch)]
    | none => [stored.put call (.patched patch) .returns]
  | .setDriverOwner driverId =>
    -- the first owner stays
    if stored.device.driverId.any (fun owner => owner ≠ "") then []
    else [stored.put call (.owned driverId) .returns]
  | .cloneDevice =>
    let clone := Device.clone stored.device newId
    [.putDevice call clone (.added clone.device) .returns]
  | .moveDevices rest roomId =>
    [stored.put call (.moved (some roomId)) (.moveDevices rest roomId)]
  | .removeDevices rest => [.unmapDevice call stored.device.id rest]
  | .removeDevice => [.unmapDevice call stored.device.id []]
  | .setDeviceMetadata patch => [stored.put call (.metadataMerged patch) .returns]
  | .setCapabilityConfig capability config =>
    [stored.put call (.configured capability config) .returns]
  | .removeRoom rest roomId => [stored.put call (.moved none) (.removeRoom rest roomId)]

/-- The next await of an operation, once its room is known to exist. -/
def afterRoom (call : Nat) (roomId : String) : RoomReader → List HomeCall
  | .updateDevice stored patch => [stored.put call (.patched patch) .returns]
  | .moveDevices ids => moveDevices call roomId ids
  | .removeRoom => [.listDevices call roomId]

/-- The awaited call of the store takes effect, and the operation goes on. -/
def resume (newId : Nat → DeviceId) (home : HomeService) : HomeCall → HomeService × List HomeCall
  | .getDevice call id reader =>
    match home.devices.get id with
    | none => (home, afterMissing call reader)
    | some stored =>
      let drawn := if reader = .cloneDevice then home.drawn + 1 else home.drawn
      ({ home with drawn := drawn }, afterFound (newId home.drawn) call stored reader)
  | .getRoom call roomId reader =>
    (home, if home.rooms.has roomId then afterRoom call roomId reader else [])
  | .listDevices call roomId =>
    (home, removeRoom call roomId
      ((home.devices.list.filter fun stored => stored.device.roomId = some roomId).map
        fun stored => stored.device.id))
  | .putDevice call stored entry after =>
    let written := (home.putDevice stored).record call entry
    match after with
    | .returns => (written.emitChanged (.upsert stored.device), [])
    | .moveDevices rest roomId =>
      (written.emitChanged (.upsert stored.device), moveDevices call roomId rest)
    -- nobody is told that the device has left its room
    | .removeRoom rest roomId => (written, removeRoom call roomId rest)
  | .updateDeviceState call id nextState state =>
    match home.devices.get id with
    | none => (home, [])
    | some stored =>
      ((home.putDevice { stored with
          device := { stored.device with state := nextState } }).record call
            (.changed id (.reported state)), [])
  | .unmapDevice call id rest => (home, [.deleteDevice call id rest])
  | .deleteDevice call id rest =>
    (({ home with devices := home.devices.remove id }.record call (.removed id)).emitChanged
      (.delete id), removeDevices call rest)
  | .putRoom roomId => ({ home with rooms := home.rooms.set roomId () }, [])
  | .deleteRoom roomId => ({ home with rooms := home.rooms.delete roomId }, [])

def opened (rooms : OrderedSet String)
    (devices : KeyedStore fun stored : StoredDevice => stored.device.id) (drawn : Nat) :
    HomeService where
  rooms := rooms
  devices := devices
  index := .hydrate (devices.list.map StoredDevice.device)
  drawn := drawn
  calls := 0
  history := []

end HomeService

/-- The operations of the service, segment by segment; a call that rejects ends its operation. -/
def homeProgram (newId : Nat → DeviceId) : Program HomeService HomeRequest HomeCall HomeReply where
  start := HomeService.start
  resume home call
    | .resolved => some (home.resume newId call)
    | .rejected => some (home, [])

def lamp (roomId : Option String) : Device where
  id := "lamp"
  homeId := "home"
  roomId := roomId
  name := "Lamp"
  supremeType := .dimmer
  manufacturer := none
  model := none
  driverId := none
  status := .online
  capabilities := [⟨.onoff, OrderedMap.empty⟩, ⟨.brightness, OrderedMap.empty⟩]
  state := OrderedMap.empty
  metadata := OrderedMap.empty

end SupremeOs.Home
