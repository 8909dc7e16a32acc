import SupremeOs.Home.HomeService
import SupremeOs.IntentEngine.ResolvedExactly

/-!
# Topology events mirror the store

The index is hydrated once and follows the events of the service from then on.
Calls that are made one after another should leave it as it would be if it were
hydrated again, live states apart.

Every write of a topology is followed by its event, except where a room is
removed: its devices lose their room in the store, and nobody is told.
-/

namespace SupremeOs.Home

open Support DomainModel IntentEngine

/-- A device without its live state. -/
def topology (device : Device) : Device := { device with state := OrderedMap.empty }

def HomeService.hydrated (home : HomeService) : CapabilityIndex :=
  .hydrate (home.devices.list.map StoredDevice.device)

/-- What the index finds is what a freshly hydrated one finds. -/
structure Mirrored (home : HomeService) : Prop where
  get : ∀ id, (home.index.get id).map topology = (home.hydrated.get id).map topology
  devicesWithCapability : ∀ kind device,
    device ∈ (home.index.devicesWithCapability kind).map topology ↔
      device ∈ (home.hydrated.devicesWithCapability kind).map topology
  devicesWithCapabilityInRoom : ∀ kind roomId device,
    device ∈ (home.index.devicesWithCapabilityInRoom kind roomId).map topology ↔
      device ∈ (home.hydrated.devicesWithCapabilityInRoom kind roomId).map topology

def LeavesNoDevice (home : HomeService) (label : HomeRequest × Nat) (next : HomeService) : Prop :=
  ∀ roomId, label.1 = .removeRoom roomId → home.rooms.has roomId = true →
    ∀ id device, next.index.get id = some device → device.roomId ≠ some roomId

def HomeRequest.removedRoom : HomeRequest → Option String
  | .removeRoom roomId => some roomId
  | .addRoom _ | .addDevice _ _ _ | .applyState _ _ | .updateDevice _ _ | .setDriverOwner _ _
  | .cloneDevice _ | .moveDevices _ _ | .removeDevices _ | .removeDevice _
  | .setDeviceMetadata _ _ | .setCapabilityConfig _ _ _ => none

def removesEmpty (home : HomeService) (label : HomeRequest × Nat) : Prop :=
  ∀ roomId ∈ label.1.removedRoom, home.rooms.has roomId = true →
    ∀ stored ∈ home.devices.list, stored.device.roomId ≠ some roomId

instance (home : HomeService) (label : HomeRequest × Nat) : Decidable (removesEmpty home label) :=
  inferInstanceAs (Decidable (∀ roomId ∈ label.1.removedRoom, _))

def Follows (home : HomeService) : Prop :=
  ∀ id, (home.index.get id).map topology =
    (home.devices.get id).map fun stored => topology stored.device

section Indexes

variable {index other : CapabilityIndex}

theorem mem_of_same_get (same : ∀ id, (index.get id).map topology = (other.get id).map topology)
    {condition : Device → Prop} {seen : Device}
    (blind : ∀ device, condition device ↔ condition (topology device)) :
    (∃ device, (index.get device.id = some device ∧ condition device) ∧ topology device = seen) →
      ∃ device, (other.get device.id = some device ∧ condition device) ∧
        topology device = seen := by
  rintro ⟨device, ⟨stored, met⟩, rfl⟩
  have found := same device.id
  rw [stored, Option.map_some, eq_comm, Option.map_eq_some_iff] at found
  rcases found with ⟨twin, stored', alike⟩
  have own : twin.id = device.id := by
    simpa [topology] using congrArg Device.id alike
  refine ⟨twin, ⟨?_, ?_⟩, alike⟩
  · rw [own]
    exact stored'
  · rw [blind, alike, ← blind]
    exact met

end Indexes

theorem HomeService.get_hydrated (home : HomeService) (id : DeviceId) :
    home.hydrated.get id = (home.devices.get id).map StoredDevice.device := by
  have nodup : ((home.devices.list.map StoredDevice.device).map Device.id).Nodup := by
    rw [List.map_map]
    exact home.devices.nodup_list_keys
  apply Option.ext
  intro device
  rw [hydrated, CapabilityIndex.get_hydrate nodup, List.mem_map, Option.map_eq_some_iff]
  constructor
  · rintro ⟨⟨stored, member, rfl⟩, rfl⟩
    exact ⟨stored, KeyedStore.mem_list_iff.mp member, rfl⟩
  · rintro ⟨stored, found, rfl⟩
    obtain rfl := home.devices.keyed id stored found
    exact ⟨⟨stored, KeyedStore.mem_list_iff.mpr found, rfl⟩, rfl⟩

theorem mirrored_iff {home : HomeService} : Mirrored home ↔ Follows home := by
  constructor
  · intro mirrored id
    rw [mirrored.get, home.get_hydrated, Option.map_map]
    rfl
  · intro follows
    have same : ∀ id, (home.index.get id).map topology = (home.hydrated.get id).map topology := by
      intro id
      rw [follows, home.get_hydrated, Option.map_map]
      rfl
    have back : ∀ id, (home.hydrated.get id).map topology = (home.index.get id).map topology :=
      fun id => (same id).symm
    refine ⟨same, ?_, ?_⟩
    · intro kind device
      simp only [List.mem_map, CapabilityIndex.mem_devicesWithCapability]
      exact ⟨mem_of_same_get same fun _ => Iff.rfl, mem_of_same_get back fun _ => Iff.rfl⟩
    · intro kind roomId device
      simp only [List.mem_map, CapabilityIndex.mem_devicesWithCapabilityInRoom]
      exact ⟨mem_of_same_get same fun _ => Iff.rfl, mem_of_same_get back fun _ => Iff.rfl⟩

theorem homeProgram_single (newId : Nat → DeviceId) : (homeProgram newId).Single := by
  have moving (call : Nat) (roomId : String) (ids : List DeviceId) :
      (moveDevices call roomId ids).length ≤ 1 := by
    cases ids <;> simp [moveDevices]
  have removing (call : Nat) (ids : List DeviceId) : (removeDevices call ids).length ≤ 1 := by
    cases ids <;> simp [removeDevices]
  have unassigning (call : Nat) (roomId : String) (ids : List DeviceId) :
      (removeRoom call roomId ids).length ≤ 1 := by
    cases ids <;> simp [removeRoom]
  have found (id : DeviceId) (call : Nat) (stored : StoredDevice) (reader : DeviceReader) :
      (HomeService.afterFound id call stored reader).length ≤ 1 := by
    cases reader <;> simp only [HomeService.afterFound] <;> try split
    all_goals simp
  constructor
  · intro home request
    cases request <;> simp [homeProgram, HomeService.start, removing]
  · intro home call reply outcome resumed
    cases reply with
    | rejected =>
      cases resumed
      simp
    | resolved =>
      cases resumed
      cases call with
      | getDevice call id reader =>
        simp only [HomeService.resume]
        split
        · cases reader <;> simp [HomeService.afterMissing, moving, removing, unassigning]
        · exact found ..
      | getRoom call roomId reader =>
        simp only [HomeService.resume]
        split
        · cases reader <;> simp [HomeService.afterRoom, moving, StoredDevice.put]
        · simp
      | putDevice call stored entry after =>
        cases after <;> simp [HomeService.resume, moving, unassigning]
      | updateDeviceState call id nextState state =>
        simp only [HomeService.resume]
        split <;> simp
      | listDevices _ _ | unmapDevice _ _ _ | deleteDevice _ _ _ | putRoom _ | deleteRoom _ =>
        simp [HomeService.resume, removing, unassigning]

section Segments

variable {home next : HomeService}

theorem Follows.of_same (follows : Follows home) (index : next.index = home.index)
    (devices : next.devices = home.devices) : Follows next := by
  intro id
  rw [index, devices]
  exact follows id

theorem Follows.upserted (follows : Follows home) (stored : StoredDevice) (call : Nat)
    (entry : DeviceRecord) :
    Follows (((home.putDevice stored).record call entry).emitChanged (.upsert stored.device)) := by
  intro id
  simp only [HomeService.emitChanged, HomeService.record, HomeService.putDevice,
    CapabilityIndex.get_upsert, KeyedStore.get_put]
  by_cases own : id = stored.device.id
  · simp [own]
  · simp only [own, if_false]
    exact follows id

theorem Follows.deleted (follows : Follows home) (id : DeviceId) (call : Nat) :
    Follows (({ home with devices := home.devices.remove id }.record call
      (.removed id)).emitChanged (.delete id)) := by
  intro other
  simp only [HomeService.emitChanged, HomeService.record, CapabilityIndex.get_remove,
    KeyedStore.get_remove]
  by_cases own : other = id
  · simp [own]
  · simp only [own, if_false]
    exact follows other

theorem Follows.reported (follows : Follows home) {id : DeviceId} {stored : StoredDevice}
    (found : home.devices.get id = some stored)
    (nextState : OrderedMap CapabilityKind CapabilityState) (call : Nat) (entry : DeviceRecord) :
    Follows ((home.putDevice { stored with
      device := { stored.device with state := nextState } }).record call entry) := by
  intro other
  have own := home.devices.keyed id stored found
  simp only [HomeService.record, HomeService.putDevice, KeyedStore.get_put]
  rw [follows other]
  by_cases same : other = id
  · simp [same, own, found, topology]
  · simp [same, own]

/-- The operation does not take a device out of a room that is removed. -/
def Spares (home : HomeService) : HomeCall → Prop
  | .getRoom _ roomId .removeRoom =>
    home.rooms.has roomId = true → ∀ stored ∈ home.devices.list, stored.device.roomId ≠ some roomId
  | .listDevices _ roomId => ∀ stored ∈ home.devices.list, stored.device.roomId ≠ some roomId
  | .getDevice _ _ (.removeRoom _ _) | .putDevice _ _ _ (.removeRoom _ _) => False
  | .getRoom _ _ (.updateDevice _ _) | .getRoom _ _ (.moveDevices _)
  | .getDevice _ _ _ | .putDevice _ _ _ _ | .updateDeviceState _ _ _ _ | .unmapDevice _ _ _
  | .deleteDevice _ _ _ | .putRoom _ | .deleteRoom _ => True

/-- The index follows, and the pending operation takes no device out of its room. -/
def Sparing (config : Config HomeService HomeCall) : Prop :=
  Follows config.shared ∧ ∀ call ∈ config.pending, Spares config.shared call

theorem spares_moveDevices (call : Nat) (roomId : String) (ids : List DeviceId) :
    ∀ other ∈ moveDevices call roomId ids, Spares home other := by
  cases ids <;> simp [moveDevices, Spares]

theorem spares_removeDevices (call : Nat) (ids : List DeviceId) :
    ∀ other ∈ removeDevices call ids, Spares home other := by
  cases ids <;> simp [removeDevices, Spares]

theorem sparing_start (follows : Follows home) {request : HomeRequest} {count : Nat}
    (empty : removesEmpty home (request, count)) :
    Sparing ⟨(home.start request).1, (home.start request).2⟩ := by
  refine ⟨follows.of_same rfl rfl, ?_⟩
  cases request with
  | removeDevices ids => exact spares_removeDevices _ _
  | removeRoom roomId => simpa [HomeService.start, Spares] using empty roomId rfl
  | addRoom _ | addDevice _ _ _ | applyState _ _ | updateDevice _ _ | setDriverOwner _ _
  | cloneDevice _ | moveDevices _ _ | removeDevice _ | setDeviceMetadata _ _
  | setCapabilityConfig _ _ _ => simp [HomeService.start, Spares]

theorem sparing_resume {newId : Nat → DeviceId} {call : HomeCall}
    (sparing : Sparing ⟨home, [call]⟩) :
    Sparing ⟨(home.resume newId call).1, (home.resume newId call).2⟩ := by
  rcases sparing with ⟨follows, spares⟩
  have own : Spares home call := spares call (List.mem_singleton_self call)
  cases call with
  | getDevice call id reader =>
    simp only [HomeService.resume]
    split
    · refine ⟨follows, ?_⟩
      cases reader with
      | removeRoom rest roomId => exact own.elim
      | moveDevices rest roomId => exact spares_moveDevices _ _ _
      | removeDevices rest => exact spares_removeDevices _ _
      | applyState _ | updateDevice _ | setDriverOwner _ | cloneDevice | removeDevice
      | setDeviceMetadata _ | setCapabilityConfig _ _ => simp [HomeService.afterMissing]
    · refine ⟨follows.of_same rfl rfl, ?_⟩
      cases reader with
      | removeRoom rest roomId => exact own.elim
      | updateDevice patch =>
        simp only [HomeService.afterFound]
        split <;> simp [Spares, StoredDevice.put]
      | setDriverOwner driverId =>
        simp only [HomeService.afterFound]
        split <;> simp [Spares, StoredDevice.put]
      | applyState _ | cloneDevice | moveDevices _ _ | removeDevices _ | removeDevice
      | setDeviceMetadata _ | setCapabilityConfig _ _ =>
        simp [HomeService.afterFound, Spares, StoredDevice.put]
  | getRoom call roomId reader =>
    refine ⟨follows, ?_⟩
    simp only [HomeService.resume]
    split
    · rename_i known
      cases reader with
      | moveDevices ids => exact spares_moveDevices _ _ _
      | updateDevice stored patch => simp [HomeService.afterRoom, Spares, StoredDevice.put]
      | removeRoom => simpa [HomeService.afterRoom, Spares] using own known
    · simp
  | listDevices call roomId =>
    refine ⟨follows, ?_⟩
    have nobody : (home.devices.list.filter fun stored =>
        stored.device.roomId = some roomId) = [] := by
      simpa [Spares] using own
    simp [HomeService.resume, nobody, removeRoom, Spares]
  | putDevice call stored entry after =>
    cases after with
    | returns => exact ⟨follows.upserted _ _ _, by simp [HomeService.resume]⟩
    | moveDevices rest roomId => exact ⟨follows.upserted _ _ _, spares_moveDevices _ _ _⟩
    | removeRoom rest roomId => exact own.elim
  | updateDeviceState call id nextState state =>
    simp only [HomeService.resume]
    split
    · exact ⟨follows, by simp⟩
    · rename_i stored found
      exact ⟨follows.reported found _ _ _, by simp⟩
  | unmapDevice call id rest => exact ⟨follows, by simp [HomeService.resume, Spares]⟩
  | deleteDevice call id rest => exact ⟨follows.deleted _ _, spares_removeDevices _ _⟩
  | putRoom roomId | deleteRoom roomId =>
    exact ⟨follows.of_same rfl rfl, by simp [HomeService.resume]⟩

end Segments

section Removal

variable {home : HomeService} {id : DeviceId}

def Unassigned (home : HomeService) (id : DeviceId) : Prop :=
  ∃ stored, home.devices.get id = some stored ∧ stored.device.roomId = none

/-- The device has lost its room, or is among those that are still to lose it. -/
def Loses (home : HomeService) (id : DeviceId) (rest : List DeviceId) : Prop :=
  Unassigned home id ∨ (home.devices.get id).isSome ∧ id ∈ rest

/-- The removal of a room that will take the device out of it. -/
def Unassigns (id : DeviceId) (home : HomeService) : HomeCall → Prop
  | .getRoom _ roomId .removeRoom =>
    home.rooms.has roomId = true ∧
      ∃ stored, home.devices.get id = some stored ∧ stored.device.roomId = some roomId
  | .listDevices _ roomId =>
    ∃ stored, home.devices.get id = some stored ∧ stored.device.roomId = some roomId
  | .getDevice _ first (.removeRoom rest _) => Loses home id (first :: rest)
  | .putDevice _ stored _ (.removeRoom rest _) =>
    stored.device.roomId = none ∧ (stored.device.id = id ∨ Loses home id rest)
  | .deleteRoom _ => Unassigned home id
  | .getRoom _ _ _ | .getDevice _ _ _ | .putDevice _ _ _ _ | .updateDeviceState _ _ _ _
  | .unmapDevice _ _ _ | .deleteDevice _ _ _ | .putRoom _ => False

/-- Nothing is told to the index, and in the end the device has no room. -/
def Unassigning (index : CapabilityIndex) (id : DeviceId)
    (config : Config HomeService HomeCall) : Prop :=
  config.shared.index = index ∧ (∀ call ∈ config.pending, Unassigns id config.shared call) ∧
    (config.pending = [] → Unassigned config.shared id)

theorem unassigning_removeRoom (loses : Loses home id rest) (call : Nat) (roomId : String) :
    Unassigning home.index id ⟨home, removeRoom call roomId rest⟩ := by
  cases rest with
  | nil =>
    have gone : Unassigned home id := by simpa [Loses] using loses
    exact ⟨rfl, by simpa [removeRoom, Unassigns] using gone, by simp [removeRoom]⟩
  | cons first rest =>
    exact ⟨rfl, by simpa [removeRoom, Unassigns] using loses, by simp [removeRoom]⟩

theorem unassigning_resume {newId : Nat → DeviceId} {index : CapabilityIndex} {call : HomeCall}
    (before : Unassigning index id ⟨home, [call]⟩) :
    Unassigning index id ⟨(home.resume newId call).1, (home.resume newId call).2⟩ := by
  rcases before with ⟨rfl, every, _⟩
  have own : Unassigns id home call := every call (List.mem_singleton_self call)
  cases call with
  | getRoom call roomId reader =>
    cases reader with
    | removeRoom =>
      simp only [HomeService.resume, own.1, if_true, HomeService.afterRoom]
      exact ⟨rfl, by simpa [Unassigns] using own.2, by simp⟩
    | updateDevice _ _ | moveDevices _ => exact own.elim
  | listDevices call roomId =>
    rcases own with ⟨stored, found, inRoom⟩
    apply unassigning_removeRoom
    refine .inr ⟨by simp [found], ?_⟩
    obtain rfl := home.devices.keyed id stored found
    apply List.mem_map_of_mem (f := fun stored : StoredDevice => stored.device.id)
    rw [List.mem_filter]
    exact ⟨KeyedStore.mem_list_iff.mpr found, by simpa using inRoom⟩
  | getDevice call first reader =>
    cases reader with
    | removeRoom rest roomId =>
      simp only [HomeService.resume]
      split
      · rename_i missing
        apply unassigning_removeRoom
        rcases own with gone | ⟨present, member⟩
        · exact .inl gone
        · rcases List.mem_cons.mp member with rfl | later
          · rw [missing] at present
            cases present
          · exact .inr ⟨present, later⟩
      · rename_i stored found
        refine ⟨rfl, ?_, by simp [HomeService.afterFound]⟩
        have same := home.devices.keyed first stored found
        simp only [HomeService.afterFound, List.mem_singleton, forall_eq, StoredDevice.put,
          Unassigns, DeviceChange.apply_id]
        refine ⟨rfl, ?_⟩
        rcases own with gone | ⟨present, member⟩
        · exact .inr (.inl gone)
        · rcases List.mem_cons.mp member with rfl | later
          · exact .inl same
          · exact .inr (.inr ⟨present, later⟩)
    | applyState _ | updateDevice _ | setDriverOwner _ | cloneDevice | moveDevices _ _
    | removeDevices _ | removeDevice | setDeviceMetadata _ | setCapabilityConfig _ _ =>
      exact own.elim
  | putDevice call stored entry after =>
    cases after with
    | removeRoom rest roomId =>
      have written : ((home.putDevice stored).record call entry).devices.get id =
          if id = stored.device.id then some stored else home.devices.get id :=
        KeyedStore.get_put ..
      apply unassigning_removeRoom
      by_cases mine : id = stored.device.id
      · exact .inl ⟨stored, written.trans (if_pos mine), own.1⟩
      · have loses := own.2.resolve_left (Ne.symm mine)
        have still : Loses ((home.putDevice stored).record call entry) id rest := by
          simpa only [Loses, Unassigned, written.trans (if_neg mine)] using loses
        exact still
    | returns | moveDevices _ _ => exact own.elim
  | deleteRoom roomId => exact ⟨rfl, by simp [HomeService.resume], fun _ => own⟩
  | updateDeviceState _ _ _ _ | unmapDevice _ _ _ | deleteDevice _ _ _ | putRoom _ =>
    exact own.elim

def RemovesBare (roomId : String) (config : Config HomeService HomeCall) : Prop :=
  (∀ stored ∈ config.shared.devices.list, stored.device.roomId ≠ some roomId) ∧
    ∀ call ∈ config.pending, (∃ number, call = .getRoom number roomId .removeRoom) ∨
      (∃ number, call = .listDevices number roomId) ∨ call = .deleteRoom roomId

theorem removesBare_resume {newId : Nat → DeviceId} {roomId : String} {call : HomeCall}
    (before : RemovesBare roomId ⟨home, [call]⟩) :
    RemovesBare roomId ⟨(home.resume newId call).1, (home.resume newId call).2⟩ := by
  rcases before with ⟨bare, every⟩
  rcases every call (List.mem_singleton_self call) with ⟨number, rfl⟩ | ⟨number, rfl⟩ | rfl
  · refine ⟨bare, ?_⟩
    simp only [HomeService.resume]
    split <;> simp [HomeService.afterRoom]
  · have nobody : (home.devices.list.filter fun stored =>
        stored.device.roomId = some roomId) = [] := by
      simpa using bare
    exact ⟨bare, by simp [HomeService.resume, nobody, removeRoom]⟩
  · exact ⟨bare, by simp [HomeService.resume]⟩

end Removal

section Calls

variable {newId : Nat → DeviceId} {home next : HomeService} {label : HomeRequest × Nat}

/-- The service with its calls made one after another, all of which complete. -/
def callMachine (newId : Nat → DeviceId) : Machine HomeService (HomeRequest × Nat) :=
  (homeProgram newId).sequential .resolved

theorem follows_step (follows : Follows home) (empty : removesEmpty home label)
    (step : (callMachine newId).step home label = some next) : Follows next := by
  refine (Program.invariant_of_sequential (homeProgram_single newId)
    (sparing_start follows empty) ?_ step).1
  intro shared call outcome sparing resumed
  cases resumed
  exact sparing_resume sparing

theorem not_follows_step (follows : Follows home) (occupied : ¬removesEmpty home label)
    (step : (callMachine newId).step home label = some next) : ¬Follows next := by
  rcases label with ⟨request, count⟩
  simp only [removesEmpty, not_forall, not_not] at occupied
  rcases occupied with ⟨roomId, removes, known, stored, member, inRoom⟩
  obtain rfl : request = .removeRoom roomId := by
    cases request <;> simp_all [HomeRequest.removedRoom]
  have found := KeyedStore.mem_list_iff.mp member
  have after : Unassigning home.index stored.device.id (Program.idle next) := by
    refine Program.invariant_of_sequential (homeProgram_single newId) ?_ ?_ step
    · exact ⟨rfl, by simpa [homeProgram, HomeService.start, Unassigns] using
        ⟨known, stored, found, inRoom⟩, by simp [homeProgram, HomeService.start]⟩
    · intro shared call outcome unassigning resumed
      cases resumed
      exact unassigning_resume unassigning
  rcases after with ⟨index, _, returned⟩
  rcases returned rfl with ⟨bare, found', noRoom⟩
  intro onward
  have indexed := follows stored.device.id
  have still := onward stored.device.id
  simp only [Program.idle] at index found'
  rw [index, indexed, found, found'] at still
  have rooms := congrArg (fun image => image.map Device.roomId) still
  simp [topology, inRoom, noRoom] at rooms

theorem leavesNoDevice_step (follows : Follows home) (empty : removesEmpty home label)
    (step : (callMachine newId).step home label = some next) :
    LeavesNoDevice home label next := by
  rcases label with ⟨request, count⟩
  rintro roomId rfl known id device indexed inRoom
  have after : RemovesBare roomId (Program.idle next) := by
    refine Program.invariant_of_sequential (homeProgram_single newId)
      ⟨empty roomId rfl known, by simp [homeProgram, HomeService.start]⟩ ?_ step
    intro shared call outcome removes resumed
    cases resumed
    exact removesBare_resume removes
  have followed := follows_step follows empty step id
  rw [indexed, Option.map_some, eq_comm, Option.map_eq_some_iff] at followed
  rcases followed with ⟨stored, found, alike⟩
  obtain rfl := next.devices.keyed id stored found
  apply after.1 stored (KeyedStore.mem_list_iff.mpr found)
  rw [← inRoom]
  simpa [topology] using congrArg Device.roomId alike

/--
After completed calls the index finds what a freshly hydrated one finds,
exactly as long as no room is removed while a device is in it; and a room that
is removed then leaves no device behind that is indexed in it.
-/
theorem topology_mirrored (newId : Nat → DeviceId) (rooms : OrderedSet String)
    (devices : KeyedStore fun stored : StoredDevice => stored.device.id) (drawn : Nat)
    (labels : List (HomeRequest × Nat)) :
    ((callMachine newId).Throughout Mirrored (.opened rooms devices drawn) labels ↔
        (callMachine newId).Guarded removesEmpty (.opened rooms devices drawn) labels) ∧
      ((callMachine newId).Guarded removesEmpty (.opened rooms devices drawn) labels →
        (callMachine newId).EachStep LeavesNoDevice (.opened rooms devices drawn) labels) := by
  have hydrated : Mirrored (.opened rooms devices drawn) :=
    ⟨fun _ => rfl, fun _ _ => Iff.rfl, fun _ _ _ => Iff.rfl⟩
  constructor
  · apply Machine.throughout_iff_guarded_of_step _ hydrated
    intro home label next mirrored step
    have follows := mirrored_iff.mp mirrored
    constructor
    · intro after
      by_contra occupied
      exact not_follows_step follows occupied step (mirrored_iff.mp after)
    · intro empty
      exact mirrored_iff.mpr (follows_step follows empty step)
  · exact Machine.eachStep_of_guarded
      (fun home label next follows empty step => follows_step follows empty step)
      (fun home label next follows empty step => leavesNoDevice_step follows empty step)
      (mirrored_iff.mp hydrated)

/-- A lamp is moved out of the kitchen before the kitchen is removed. -/
theorem emptied_room_is_removed : let calls : List (HomeRequest × Nat) :=
      [(.addRoom "kitchen", 1), (.addRoom "hall", 1),
        (.addDevice (lamp (some "kitchen")) OrderedMap.empty none, 1),
        (.moveDevices ["lamp"] "hall", 3), (.removeRoom "kitchen", 3)]
    let home := HomeService.opened OrderedMap.empty KeyedStore.empty 0
    (callMachine fun number => toString number).Throughout Mirrored home calls ∧
      (callMachine fun number => toString number).EachStep LeavesNoDevice home calls :=
  have mirrored := topology_mirrored (fun number => toString number) OrderedMap.empty
    KeyedStore.empty 0 _
  have empty := by decide +kernel
  ⟨mirrored.1.mpr empty, mirrored.2 empty⟩

/-- A lamp is indexed in the kitchen after the kitchen has been removed. -/
theorem lamp_stays_in_removed_room : ¬ ∀ labels : List (HomeRequest × Nat),
      (callMachine fun number => toString number).Throughout Mirrored
        (.opened (OrderedMap.empty.set "kitchen" ()) KeyedStore.empty 0) labels := by
  intro mirrored
  have last := Machine.property_of_throughout
    (mirrored [(.addDevice (lamp (some "kitchen")) OrderedMap.empty none, 1),
      (.removeRoom "kitchen", 5)]) rfl
  have same := congrArg (fun image => image.map Device.roomId) (last.get "lamp")
  revert same
  decide +kernel

theorem fitsRoom_iff {first second : Option Device} {kinds : List CapabilityKind} {roomId : String}
    (same : first.map topology = second.map topology) :
    FitsRoom first kinds roomId ↔ FitsRoom second kinds roomId := by
  have onward : ∀ {first second : Option Device}, first.map topology = second.map topology →
      FitsRoom first kinds roomId → FitsRoom second kinds roomId := by
    rintro first second same ⟨device, rfl, inRoom, kind, required, has⟩
    rcases Option.map_eq_some_iff.mp same.symm with ⟨other, rfl, alike⟩
    refine ⟨other, rfl, ?_, kind, required, ?_⟩
    · rw [← inRoom]
      show (topology other).roomId = (topology device).roomId
      rw [alike]
    · rw [← has]
      show declares (topology other) kind = declares (topology device) kind
      rw [alike]
  exact ⟨onward same, onward same.symm⟩

/-- A run on a room commands the devices that the store has in the room. -/
def ReachesStored (home : HomeService) : Prop :=
  ∀ (engine : IntentEngineState) (times : IntentEngineState.RunTimes) (intentId roomId : String)
    (params : IntentParams) (registration : IntentRegistration),
    engine.registry.get intentId = some registration →
    registration.definition.requiredCapabilities ≠ [] →
    CommandsRoom
      (fun id => FitsRoom ((home.devices.get id).map StoredDevice.device)
        registration.definition.requiredCapabilities roomId)
      (engine.run home.index times intentId (.room roomId) params).2.1
      (engine.run home.index times intentId (.room roomId) params).2.2

theorem Follows.reachesStored (follows : Follows home) : ReachesStored home := by
  intro engine times intentId roomId params registration registered required
  have fits : ∀ id, FitsRoom ((home.devices.get id).map StoredDevice.device)
      registration.definition.requiredCapabilities roomId ↔
      FitsRoom (home.index.get id) registration.definition.requiredCapabilities roomId := by
    intro id
    refine fitsRoom_iff ?_
    rw [follows id, Option.map_map]
    rfl
  rw [IntentEngineState.run_calls]
  simp only [fits]
  exact attempt_commandsRoom home.index roomId registered required
    fun run ok => IntentEngineState.outcome_of_run ok

/-- The index carries what the service writes to the engine: runs on rooms follow the store. -/
theorem roomIntents_reachStored (newId : Nat → DeviceId) (rooms : OrderedSet String)
    (devices : KeyedStore fun stored : StoredDevice => stored.device.id) (drawn : Nat)
    (labels : List (HomeRequest × Nat))
    (empty : (callMachine newId).Guarded removesEmpty (.opened rooms devices drawn) labels) :
    (callMachine newId).Throughout ReachesStored (.opened rooms devices drawn) labels :=
  (Machine.throughout_of_guarded
    (fun _ _ _ follows empty step => follows_step follows empty step)
    (mirrored_iff.mp ⟨fun _ => rfl, fun _ _ => Iff.rfl, fun _ _ _ => Iff.rfl⟩) empty).mono
    fun _ follows => follows.reachesStored

theorem moved_lamp_reachStored : (callMachine fun number => toString number).Throughout
    ReachesStored (.opened (OrderedMap.empty.set "hall" ()) KeyedStore.empty 0)
    [(.addDevice (lamp (some "kitchen")) OrderedMap.empty none, 1),
      (.moveDevices ["lamp"] "hall", 3)] :=
  roomIntents_reachStored _ _ _ _ _ (by decide +kernel)

end Calls

end SupremeOs.Home
