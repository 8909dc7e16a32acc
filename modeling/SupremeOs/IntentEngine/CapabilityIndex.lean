import Mathlib.Data.List.Induction
import SupremeOs.DomainModel.Capabilities
import SupremeOs.Support.KeyedStore

/-!
# The capability index

Devices by their identifier, and for each kind of capability the identifiers
of the devices that have it.  The index is filled once and then follows single
devices as they change.  It carries the proof that both parts speak of the same
devices, so that what is found for a kind is said in terms of `get` alone.
-/

namespace SupremeOs.IntentEngine

open Support DomainModel List

abbrev MembersByKind := OrderedMap CapabilityKind (OrderedSet DeviceId)

def Exposes (capabilities : List DeviceCapability) (kind : CapabilityKind) : Prop :=
  ∃ capability ∈ capabilities, capability.kind = kind

namespace MembersByKind

/-- `byCapability.get(kind)?.has(id)`. -/
def Lists (byCapability : MembersByKind) (kind : CapabilityKind) (id : DeviceId) : Prop :=
  ∃ ids, byCapability.get kind = some ids ∧ ids.has id = true

def drop (id : DeviceId) (byCapability : MembersByKind) (capability : DeviceCapability) :
    MembersByKind :=
  match byCapability.get capability.kind with
  | some ids => byCapability.set capability.kind (ids.delete id)
  | none => byCapability

def add (id : DeviceId) (byCapability : MembersByKind) (capability : DeviceCapability) :
    MembersByKind :=
  byCapability.set capability.kind
    (((byCapability.get capability.kind).getD OrderedMap.empty).set id ())

variable {byCapability : MembersByKind} {kind : CapabilityKind} {id other : DeviceId}

variable {capability : DeviceCapability}

theorem lists_drop : Lists (drop id byCapability capability) kind other ↔
      Lists byCapability kind other ∧ ¬(other = id ∧ capability.kind = kind) := by
  simp only [Lists, drop]
  cases found : byCapability.get capability.kind with
  | none =>
    constructor
    · rintro ⟨ids, listed, member⟩
      refine ⟨⟨ids, listed, member⟩, ?_⟩
      rintro ⟨_, rfl⟩
      rw [found] at listed
      cases listed
    · exact And.left
  | some ids =>
    simp only [OrderedMap.get_set]
    by_cases same : kind = capability.kind
    · subst same
      by_cases own : other = id
      · simp [own, OrderedMap.has]
      · simp [own, found, OrderedMap.has]
    · simp [same, Ne.symm same]

theorem lists_add : Lists (add id byCapability capability) kind other ↔
      Lists byCapability kind other ∨ (other = id ∧ capability.kind = kind) := by
  simp only [Lists, add, OrderedMap.get_set]
  by_cases same : kind = capability.kind
  · subst same
    by_cases own : other = id
    · simp [own, OrderedMap.has]
    · cases found : byCapability.get capability.kind <;> simp [own, OrderedMap.has]
  · simp [same, Ne.symm same]

theorem lists_foldl_drop (capabilities : List DeviceCapability) :
    Lists (capabilities.foldl (drop id) byCapability) kind other ↔
      Lists byCapability kind other ∧ ¬(other = id ∧ Exposes capabilities kind) := by
  induction capabilities generalizing byCapability with
  | nil => simp [Exposes]
  | cons capability rest ih =>
    rw [foldl_cons, ih, lists_drop]
    simp only [Exposes, mem_cons, exists_eq_or_imp]
    rw [and_assoc, ← not_or, ← and_or_left]

theorem lists_foldl_add (capabilities : List DeviceCapability) :
    Lists (capabilities.foldl (add id) byCapability) kind other ↔
      Lists byCapability kind other ∨ (other = id ∧ Exposes capabilities kind) := by
  induction capabilities generalizing byCapability with
  | nil => simp [Exposes]
  | cons capability rest ih =>
    rw [foldl_cons, ih, lists_add]
    simp only [Exposes, mem_cons, exists_eq_or_imp]
    rw [or_assoc, ← and_or_left]

end MembersByKind

structure CapabilityIndex where
  byCapability : MembersByKind
  devices : KeyedStore Device.id
  /-- A device is a member of exactly the kinds it has. -/
  consistent : ∀ kind id, byCapability.Lists kind id ↔
    ∃ device, devices.get id = some device ∧ Exposes device.capabilities kind

namespace CapabilityIndex

def empty : CapabilityIndex where
  byCapability := OrderedMap.empty
  devices := KeyedStore.empty
  consistent := by simp [MembersByKind.Lists]

def get (index : CapabilityIndex) (deviceId : DeviceId) : Option Device :=
  index.devices.get deviceId

def remove (index : CapabilityIndex) (deviceId : DeviceId) : CapabilityIndex where
  byCapability :=
    match index.devices.get deviceId with
    | some existing =>
      existing.capabilities.foldl (MembersByKind.drop deviceId) index.byCapability
    | none => index.byCapability
  devices := index.devices.remove deviceId
  consistent := by
    intro kind id
    have before := index.consistent kind id
    cases found : index.devices.get deviceId with
    | none =>
      simp only [KeyedStore.get_remove]
      by_cases own : id = deviceId
      · subst own
        simp [before, found]
      · simp [before, own]
    | some existing =>
      simp only [MembersByKind.lists_foldl_drop, KeyedStore.get_remove, before]
      by_cases own : id = deviceId
      · subst own
        simp [found]
      · simp [own]

theorem lists_remove_self (index : CapabilityIndex) (deviceId : DeviceId)
    (kind : CapabilityKind) : ¬(index.remove deviceId).byCapability.Lists kind deviceId := by
  rw [(index.remove deviceId).consistent]
  simp [remove]

def upsert (index : CapabilityIndex) (device : Device) : CapabilityIndex where
  byCapability :=
    device.capabilities.foldl (MembersByKind.add device.id) (index.remove device.id).byCapability
  devices := (index.remove device.id).devices.put device
  consistent := by
    intro kind id
    rw [MembersByKind.lists_foldl_add, KeyedStore.get_put]
    by_cases own : id = device.id
    · subst own
      simp [index.lists_remove_self device.id kind]
    · simp [own, (index.remove device.id).consistent kind id]

def hydrate (devices : List Device) : CapabilityIndex := devices.foldl upsert empty

/-- Every device exposing a capability, home-wide. -/
def devicesWithCapability (index : CapabilityIndex) (kind : CapabilityKind) : List Device :=
  match index.byCapability.get kind with
  | none => []
  | some ids => ids.keys.filterMap index.devices.get

def devicesWithCapabilityInRoom (index : CapabilityIndex) (kind : CapabilityKind)
    (roomId : String) : List Device :=
  (index.devicesWithCapability kind).filter fun device => device.roomId = some roomId

variable {index : CapabilityIndex}

@[simp]
theorem get_remove (deviceId other : DeviceId) :
    (index.remove deviceId).get other = if other = deviceId then none else index.get other :=
  KeyedStore.get_remove ..

@[simp]
theorem get_upsert (device : Device) (other : DeviceId) :
    (index.upsert device).get other = if other = device.id then some device else index.get other :=
  (KeyedStore.get_put ..).trans (by
    by_cases own : other = device.id <;> simp [own, remove, get])

variable {device : Device}

theorem mem_devicesWithCapability {kind : CapabilityKind} :
    device ∈ index.devicesWithCapability kind ↔
      index.get device.id = some device ∧ Exposes device.capabilities kind := by
  have byMembers : device ∈ index.devicesWithCapability kind ↔
      ∃ id, index.byCapability.Lists kind id ∧ index.devices.get id = some device := by
    rw [devicesWithCapability]
    cases found : index.byCapability.get kind with
    | none => simp [MembersByKind.Lists, found]
    | some ids => simp [MembersByKind.Lists, found, OrderedMap.mem_keys_iff]
  rw [byMembers]
  constructor
  · rintro ⟨id, listed, stored⟩
    rcases (index.consistent kind id).mp listed with ⟨same, stored', exposes⟩
    cases stored.symm.trans stored'
    obtain rfl := index.devices.keyed id device stored
    exact ⟨stored, exposes⟩
  · rintro ⟨stored, exposes⟩
    exact ⟨device.id, (index.consistent kind device.id).mpr ⟨device, stored, exposes⟩, stored⟩

theorem mem_devicesWithCapabilityInRoom {kind : CapabilityKind} {roomId : String} :
    device ∈ index.devicesWithCapabilityInRoom kind roomId ↔
      index.get device.id = some device ∧ Exposes device.capabilities kind ∧
        device.roomId = some roomId := by
  simp [devicesWithCapabilityInRoom, mem_devicesWithCapability, and_assoc]

theorem get_hydrate_concat (devices : List Device) (device : Device) (id : DeviceId) :
    (hydrate (devices ++ [device])).get id =
      if id = device.id then some device else (hydrate devices).get id := by
  rw [hydrate, foldl_append, foldl_cons, foldl_nil, get_upsert, ← hydrate]

theorem get_hydrate {devices : List Device} (nodup : (devices.map Device.id).Nodup)
    {id : DeviceId} :
    (hydrate devices).get id = some device ↔ device ∈ devices ∧ device.id = id := by
  induction devices using List.reverseRecOn with
  | nil => simp [hydrate, empty, get]
  | append_singleton rest last ih =>
    rw [map_append, nodup_append] at nodup
    rw [get_hydrate_concat]
    by_cases own : id = last.id
    · have others : ∀ other ∈ rest, other.id ≠ id := by
        intro other member same
        exact nodup.2.2 _ (mem_map_of_mem member) _ (mem_singleton_self _)
          (same.trans own)
      rw [if_pos own, Option.some.injEq]
      constructor
      · rintro rfl
        exact ⟨by simp, own.symm⟩
      · rintro ⟨member, same⟩
        rcases mem_append.mp member with old | new
        · exact absurd same (others device old)
        · exact (mem_singleton.mp new).symm
    · rw [if_neg own, ih nodup.1]
      simp only [mem_append, mem_singleton]
      constructor
      · rintro ⟨member, same⟩
        exact ⟨.inl member, same⟩
      · rintro ⟨member | rfl, same⟩
        · exact ⟨member, same⟩
        · exact absurd same.symm own

end CapabilityIndex

end SupremeOs.IntentEngine
