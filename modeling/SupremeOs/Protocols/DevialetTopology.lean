import SupremeOs.Crypto.CanonicalJson

/-!
# Devialet topology

No device reports who is in a system or in a group.  A snapshot is therefore
derived from what the devices report about themselves: the answers of a round
are laid over the devices that are known, and the systems and groups are built
anew from all of them.

A record lists its properties with the indices first.
-/

namespace SupremeOs.Protocols

open Support
open Crypto (codeUnits arrayIndex)

/-- The properties of a record in the order in which they are listed. -/
def objectValues {Value : Type*} (record : OrderedMap String Value) : List Value :=
  (((record.entries.filter fun entry => (arrayIndex entry.1).isSome).insertionSort
      fun left right => (arrayIndex left.1).getD 0 ≤ (arrayIndex right.1).getD 0) ++
    record.entries.filter fun entry => !(arrayIndex entry.1).isSome).map Prod.snd

/-- `names.sort()`. -/
def sortNames (names : List String) : List String :=
  names.insertionSort fun left right => codeUnits left ≤ codeUnits right

def truthy (name : Option String) : Option String := name.filter fun name => !name.isEmpty

structure DevialetDeviceTopology where
  deviceId : String
  supremeDeviceId : String
  host : String
  systemId : Option String
  groupId : Option String
  role : Option String
deriving DecidableEq

/-- A system; which device leads it is never known. -/
structure DevialetSystemTopology where
  systemId : String
  groupId : Option String
  systemName : Option String
  memberDeviceIds : List String
deriving DecidableEq

/-- A group; which system is its master is never known. -/
structure DevialetGroupTopology where
  groupId : String
  memberSystemIds : List String

structure DevialetTopologySnapshot where
  devices : OrderedMap String DevialetDeviceTopology
  systems : OrderedMap String DevialetSystemTopology
  groups : OrderedMap String DevialetGroupTopology

def emptyDevialetTopology : DevialetTopologySnapshot := ⟨.empty, .empty, .empty⟩

/-- What a device has reported in a round, with the name of its system if that was asked for. -/
structure DevialetFreshDeviceTopology where
  deviceId : String
  supremeDeviceId : String
  host : String
  systemId : Option String
  groupId : Option String
  role : Option String
  systemName : Option (Option String)

def DevialetFreshDeviceTopology.device (fresh : DevialetFreshDeviceTopology) :
    DevialetDeviceTopology :=
  ⟨fresh.deviceId, fresh.supremeDeviceId, fresh.host, fresh.systemId, fresh.groupId, fresh.role⟩

/-- The known devices once the answers of a round are laid over them. -/
def mergedDevices (known : OrderedMap String DevialetDeviceTopology)
    (fresh : List DevialetFreshDeviceTopology) : OrderedMap String DevialetDeviceTopology :=
  fresh.foldl (fun devices answer => devices.set answer.deviceId answer.device) known

/-- The system that an answer names, with the name that it brings. -/
def DevialetFreshDeviceTopology.naming (fresh : DevialetFreshDeviceTopology) :
    Option (String × Option String) :=
  (truthy fresh.systemId).bind fun systemId => fresh.systemName.map fun name => (systemId, name)

def systemNameOverrides (fresh : List DevialetFreshDeviceTopology) :
    OrderedMap String (Option String) :=
  (fresh.filterMap DevialetFreshDeviceTopology.naming).foldl
    (fun names naming => names.set naming.1 naming.2) .empty

/-- A system once a further device has joined it. -/
def memberSystem (overrides : OrderedMap String (Option String))
    (previous : OrderedMap String DevialetSystemTopology) (systemId : String)
    (existing : Option DevialetSystemTopology) (device : DevialetDeviceTopology) :
    DevialetSystemTopology where
  systemId := systemId
  -- The first member that reports a group decides it.
  groupId := (existing.bind DevialetSystemTopology.groupId).or device.groupId
  systemName :=
    match overrides.get systemId with
    | some name => name
    | none =>
      (existing.bind DevialetSystemTopology.systemName).or
        ((previous.get systemId).bind DevialetSystemTopology.systemName)
  memberDeviceIds := existing.elim [] DevialetSystemTopology.memberDeviceIds ++ [device.deviceId]

def joinSystem (overrides : OrderedMap String (Option String))
    (previous : OrderedMap String DevialetSystemTopology)
    (systems : OrderedMap String DevialetSystemTopology) (device : DevialetDeviceTopology) :
    OrderedMap String DevialetSystemTopology :=
  match truthy device.systemId with
  | none => systems
  | some systemId =>
    systems.set systemId
      (memberSystem overrides previous systemId (systems.get systemId) device)

/-- A group once a further system has joined it. -/
def memberGroup (groupId : String) (existing : Option DevialetGroupTopology)
    (system : DevialetSystemTopology) : DevialetGroupTopology where
  groupId := groupId
  memberSystemIds := existing.elim [] DevialetGroupTopology.memberSystemIds ++ [system.systemId]

def joinGroup (groups : OrderedMap String DevialetGroupTopology)
    (system : DevialetSystemTopology) : OrderedMap String DevialetGroupTopology :=
  match truthy system.groupId with
  | none => groups
  | some groupId => groups.set groupId (memberGroup groupId (groups.get groupId) system)

def buildDevialetTopologySnapshot (previous : DevialetTopologySnapshot)
    (fresh : List DevialetFreshDeviceTopology) : DevialetTopologySnapshot :=
  let devices := mergedDevices previous.devices fresh
  let joined := (objectValues devices).foldl
    (joinSystem (systemNameOverrides fresh) previous.systems) .empty
  let systems := joined.mapValues fun system =>
    { system with memberDeviceIds := sortNames system.memberDeviceIds }
  let groups := ((objectValues systems).foldl joinGroup .empty).mapValues fun group =>
    { group with memberSystemIds := sortNames group.memberSystemIds }
  ⟨devices, systems, groups⟩

/-- A known device, as an answer that asks for no name. -/
def DevialetDeviceTopology.fresh (device : DevialetDeviceTopology) : DevialetFreshDeviceTopology :=
  ⟨device.deviceId, device.supremeDeviceId, device.host, device.systemId, device.groupId,
    device.role, none⟩

def removeDeviceFromTopology (snapshot : DevialetTopologySnapshot) (deviceId : String) :
    DevialetTopologySnapshot :=
  if snapshot.devices.has deviceId then
    buildDevialetTopologySnapshot ⟨.empty, snapshot.systems, snapshot.groups⟩
      ((objectValues (snapshot.devices.delete deviceId)).map DevialetDeviceTopology.fresh)
  else snapshot

structure DevialetTopologyChange where
  addedDeviceIds : List String
  removedDeviceIds : List String
  changedDeviceIds : List String
  addedSystemIds : List String
  removedSystemIds : List String
  addedGroupIds : List String
  removedGroupIds : List String

/-- The names that only one of two records has, those of `next` first. -/
def diffIds {Value : Type*} (previous next : OrderedMap String Value) : List String × List String :=
  (sortNames (next.keys.filter fun key => !previous.has key),
    sortNames (previous.keys.filter fun key => !next.has key))

/-- Whether a device is known by other facts than before. -/
def isChanged (before after : DevialetDeviceTopology) : Bool :=
  decide (before.systemId ≠ after.systemId) || decide (before.groupId ≠ after.groupId) ||
    decide (before.role ≠ after.role) || decide (before.host ≠ after.host)

def diffDevialetTopology (previous next : DevialetTopologySnapshot) : DevialetTopologyChange :=
  let changedDeviceIds := (next.devices.entries.filter fun entry =>
    (previous.devices.get entry.1).any fun before => isChanged before entry.2).map Prod.fst
  { addedDeviceIds := (diffIds previous.devices next.devices).1
    removedDeviceIds := (diffIds previous.devices next.devices).2
    changedDeviceIds := sortNames changedDeviceIds
    addedSystemIds := (diffIds previous.systems next.systems).1
    removedSystemIds := (diffIds previous.systems next.systems).2
    addedGroupIds := (diffIds previous.groups next.groups).1
    removedGroupIds := (diffIds previous.groups next.groups).2 }

def isTopologyChangeEmpty (change : DevialetTopologyChange) : Bool :=
  change.addedDeviceIds.isEmpty && change.removedDeviceIds.isEmpty &&
    change.changedDeviceIds.isEmpty && change.addedSystemIds.isEmpty &&
    change.removedSystemIds.isEmpty && change.addedGroupIds.isEmpty &&
    change.removedGroupIds.isEmpty

structure DevialetTopologyChangeResult where
  previous : DevialetTopologySnapshot
  next : DevialetTopologySnapshot
  changed : Bool
  changes : DevialetTopologyChange

/-- The result of a call that puts `next` in the place of `previous`. -/
def changeResult (previous next : DevialetTopologySnapshot) : DevialetTopologyChangeResult :=
  let changes := diffDevialetTopology previous next
  ⟨previous, next, !isTopologyChangeEmpty changes, changes⟩

def merge (snapshot : DevialetTopologySnapshot) (fresh : List DevialetFreshDeviceTopology) :
    DevialetTopologyChangeResult :=
  changeResult snapshot (buildDevialetTopologySnapshot snapshot fresh)

def remove (snapshot : DevialetTopologySnapshot) (deviceId : String) :
    DevialetTopologyChangeResult :=
  changeResult snapshot (removeDeviceFromTopology snapshot deviceId)

end SupremeOs.Protocols
