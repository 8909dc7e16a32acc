import SupremeOs.DomainModel.Capabilities
import SupremeOs.Support.Machine

/-!
# Entity registry mirror

The mirror maps a device and one of its capabilities, or a device without any
capability, to a backend id, and keeps a reverse index from backend ids.  The
forward entries of a device are keyed by the text `device:capability`, so a
device id must not contain the separator; `MirrorDeviceId` carries that.

The reverse index is written by `map` and `mapDevice` and erased by
`unmapDevice`.  The second half of the file determines exactly in which
sequences of operations it stays the inverse of the forward maps.
-/

namespace SupremeOs.IntegrationLayer

open Support
open DomainModel List OrderedMap

/-- A device id as it is used in the keys of the mirror: without a separator. -/
@[ext]
structure MirrorDeviceId where
  id : String
  plain : ':' ∉ id.toList
deriving DecidableEq

structure BackendEntityRef where
  backendId : String
  backendDomain : String
  backendAttr : Option String

/-- The text before every key of a device. -/
def keyPrefix (deviceId : MirrorDeviceId) : String := deviceId.id ++ ":"

def entityKey (deviceId : MirrorDeviceId) (capability : CapabilityKind) : String :=
  keyPrefix deviceId ++ capability.literal

structure EntityRegistryMirror where
  forward : OrderedMap String BackendEntityRef
  /-- Every forward entry is stored under the key of a device capability. -/
  keyed : ∀ key ref, forward.get key = some ref →
    ∃ deviceId capability, key = entityKey deviceId capability
  reverse : OrderedMap String (MirrorDeviceId × CapabilityKind)
  deviceBackendId : OrderedMap MirrorDeviceId String
  reverseDevice : OrderedMap String MirrorDeviceId

namespace EntityRegistryMirror

def empty : EntityRegistryMirror :=
  ⟨OrderedMap.empty, by simp, OrderedMap.empty, OrderedMap.empty, OrderedMap.empty⟩

variable (mirror : EntityRegistryMirror)

def map (deviceId : MirrorDeviceId)
    (capability : CapabilityKind) (ref : BackendEntityRef) : EntityRegistryMirror :=
  { mirror with
    forward := mirror.forward.set (entityKey deviceId capability) ref
    keyed := by
      intro key stored found
      rw [get_set] at found
      split at found
      · rename_i same
        exact ⟨deviceId, capability, same⟩
      · exact mirror.keyed key stored found
    reverse := mirror.reverse.set ref.backendId (deviceId, capability) }

def resolve (deviceId : MirrorDeviceId) (capability : CapabilityKind) : Option BackendEntityRef :=
  mirror.forward.get (entityKey deviceId capability)

def reverseLookup (backendId : String) : Option (MirrorDeviceId × CapabilityKind) :=
  mirror.reverse.get backendId

def mapDevice (deviceId : MirrorDeviceId) (backendId : String) : EntityRegistryMirror :=
  { mirror with
    deviceBackendId := mirror.deviceBackendId.set deviceId backendId
    reverseDevice := mirror.reverseDevice.set backendId deviceId }

def reverseLookupDevice (backendId : String) : Option MirrorDeviceId :=
  mirror.reverseDevice.get backendId

def backendIdOfDevice (deviceId : MirrorDeviceId) : Option String :=
  mirror.deviceBackendId.get deviceId

/-- Whether some device already owns a backend id. -/
def isKnownBackendId (backendId : String) : Bool :=
  mirror.reverse.has backendId || mirror.reverseDevice.has backendId

/-- The body of the loop of `unmapDevice` over the forward entries. -/
def unmapEntry (deviceId : MirrorDeviceId) (mirror : EntityRegistryMirror)
    (entry : String × BackendEntityRef) : EntityRegistryMirror :=
  if startsWith entry.1 (keyPrefix deviceId) then
    { mirror with
      forward := mirror.forward.delete entry.1
      keyed := by
        intro key ref found
        rw [OrderedMap.get_delete] at found
        split at found
        · simp at found
        · exact mirror.keyed key ref found
      reverse := mirror.reverse.delete entry.2.backendId }
  else mirror

/-- The end of `unmapDevice`: drop the device-level mapping. -/
def unmapBackendId (deviceId : MirrorDeviceId) (mirror : EntityRegistryMirror) :
    EntityRegistryMirror :=
  match mirror.deviceBackendId.get deviceId with
  | none => mirror
  | some backendId =>
    { mirror with
      deviceBackendId := mirror.deviceBackendId.delete deviceId
      reverseDevice := mirror.reverseDevice.delete backendId }

def unmapDevice (deviceId : MirrorDeviceId) : EntityRegistryMirror :=
  unmapBackendId deviceId
    (mirror.forward.entries.foldl (unmapEntry deviceId) mirror)

theorem entityKey_injective {left right : MirrorDeviceId}
    {leftCapability rightCapability : CapabilityKind} :
    entityKey left leftCapability = entityKey right rightCapability ↔
      left = right ∧ leftCapability = rightCapability := by
  constructor
  · intro equal
    have lists := congrArg String.toList equal
    simp only [entityKey, keyPrefix, String.toList_append, append_assoc] at lists
    rcases append_separator_injective left.plain right.plain lists with ⟨ids, capabilities⟩
    exact ⟨MirrorDeviceId.ext (String.toList_inj.mp ids),
      CapabilityKind.literal_injective (String.toList_inj.mp capabilities)⟩
  · rintro ⟨rfl, rfl⟩
    rfl

/-- The keys that `unmapDevice` visits are those of the device's own capabilities. -/
theorem startsWith_keyPrefix_iff {owner deviceId : MirrorDeviceId} {capability : CapabilityKind} :
    startsWith (entityKey owner capability) (keyPrefix deviceId) = true ↔ owner = deviceId := by
  simp only [startsWith, isPrefixOf_iff_prefix, entityKey]
  constructor
  · rintro ⟨rest, appended⟩
    simp only [keyPrefix, String.toList_append, append_assoc] at appended
    rcases append_separator_injective deviceId.plain owner.plain appended with ⟨ids, _⟩
    exact MirrorDeviceId.ext (String.toList_inj.mp ids.symm)
  · rintro rfl
    exact ⟨capability.literal.toList, by rw [String.toList_append]⟩

/-- The two ways in which a device can hold a backend id. -/
inductive Holder where
  | capability (deviceId : MirrorDeviceId) (capability : CapabilityKind)
  | device (deviceId : MirrorDeviceId)
deriving DecidableEq

def Holder.deviceId : Holder → MirrorDeviceId
  | .capability deviceId _ => deviceId
  | .device deviceId => deviceId

def held : Holder → Option String
  | .capability deviceId capability =>
    (mirror.resolve deviceId capability).map BackendEntityRef.backendId
  | .device deviceId => mirror.backendIdOfDevice deviceId

@[simp]
theorem held_map (mirror : EntityRegistryMirror) (deviceId : MirrorDeviceId)
    (capability : CapabilityKind) (ref : BackendEntityRef) (holder : Holder) :
    (mirror.map deviceId capability ref).held holder =
      if holder = .capability deviceId capability then some ref.backendId
      else mirror.held holder := by
  cases holder with
  | capability other kind =>
    simp only [held, resolve, map, get_set, entityKey_injective, Holder.capability.injEq]
    split <;> rfl
  | device other => simp [held, map, backendIdOfDevice]

@[simp]
theorem held_mapDevice (mirror : EntityRegistryMirror) (deviceId : MirrorDeviceId)
    (backendId : String) (holder : Holder) :
    (mirror.mapDevice deviceId backendId).held holder =
      if holder = .device deviceId then some backendId else mirror.held holder := by
  cases holder with
  | capability other kind => simp [held, mapDevice, resolve]
  | device other =>
    simp [held, backendIdOfDevice, mapDevice, get_set]

@[simp]
theorem reverseLookup_map (mirror : EntityRegistryMirror) (deviceId : MirrorDeviceId)
    (capability : CapabilityKind) (ref : BackendEntityRef) (backendId : String) :
    (mirror.map deviceId capability ref).reverseLookup backendId =
      if backendId = ref.backendId then some (deviceId, capability)
      else mirror.reverseLookup backendId := by
  simp [reverseLookup, map]

variable {mirror : EntityRegistryMirror}

theorem isKnownBackendId_iff {backendId : String} : mirror.isKnownBackendId backendId = true ↔
      (∃ owner, mirror.reverseLookup backendId = some owner) ∨
        ∃ owner, mirror.reverseLookupDevice backendId = some owner := by
  simp only [isKnownBackendId, Bool.or_eq_true, has_iff]
  rfl

theorem isKnownBackendId_map (mirror : EntityRegistryMirror) (deviceId : MirrorDeviceId)
    (capability : CapabilityKind) (ref : BackendEntityRef) (backendId : String) :
    (mirror.map deviceId capability ref).isKnownBackendId backendId = true ↔
      backendId = ref.backendId ∨ mirror.isKnownBackendId backendId = true := by
  simp only [isKnownBackendId_iff, reverseLookup, reverseLookupDevice, map, get_set]
  by_cases same : backendId = ref.backendId <;> simp [same]

theorem isKnownBackendId_mapDevice (mirror : EntityRegistryMirror)
    (deviceId : MirrorDeviceId) (target backendId : String) :
    (mirror.mapDevice deviceId target).isKnownBackendId backendId = true ↔
      backendId = target ∨ mirror.isKnownBackendId backendId = true := by
  simp only [isKnownBackendId_iff, reverseLookup, reverseLookupDevice, mapDevice,
    get_set]
  by_cases same : backendId = target <;> simp [same]

/-- The loop of `unmapDevice` erases the entries it visits and their reverse entries. -/
theorem foldl_unmapEntry (deviceId : MirrorDeviceId)
    (entries : List (String × BackendEntityRef)) (mirror : EntityRegistryMirror) :
    let result := entries.foldl (unmapEntry deviceId) mirror
    result.deviceBackendId = mirror.deviceBackendId ∧ result.reverseDevice = mirror.reverseDevice ∧
      (∀ key ref, result.forward.get key = some ref ↔ mirror.forward.get key = some ref ∧
          ∀ entry ∈ entries, startsWith entry.1 (keyPrefix deviceId) = true → entry.1 ≠ key) ∧
      ∀ backendId owner, result.reverse.get backendId = some owner ↔
        mirror.reverse.get backendId = some owner ∧
          ∀ entry ∈ entries, startsWith entry.1 (keyPrefix deviceId) = true →
            entry.2.backendId ≠ backendId := by
  induction entries generalizing mirror with
  | nil => simp
  | cons entry rest ih =>
    rcases ih (unmapEntry deviceId mirror entry) with
      ⟨devices, reverseDevices, forward, reverse⟩
    simp only [foldl_cons] at *
    by_cases visited : startsWith entry.1 (keyPrefix deviceId) = true
    · simp only [unmapEntry, visited, if_true] at devices reverseDevices forward reverse ⊢
      refine ⟨devices, reverseDevices, ?_, ?_⟩
      · intro key ref
        rw [forward]
        simp only [OrderedMap.get_delete, mem_cons, forall_eq_or_imp, visited,
          forall_true_left]
        by_cases same : key = entry.1
        · simp [same]
        · have differs : entry.1 ≠ key := fun equal => same equal.symm
          simp [same, differs]
      · intro backendId owner
        rw [reverse]
        simp only [OrderedMap.get_delete, mem_cons, forall_eq_or_imp, visited,
          forall_true_left]
        by_cases same : backendId = entry.2.backendId
        · simp [same]
        · have differs : entry.2.backendId ≠ backendId := fun equal => same equal.symm
          simp [same, differs]
    · have skipped : unmapEntry deviceId mirror entry = mirror := by
        simp [unmapEntry, visited]
      rw [skipped] at devices reverseDevices forward reverse ⊢
      refine ⟨devices, reverseDevices, ?_, ?_⟩
      · intro key ref
        simp [forward, forall_eq_or_imp, visited, false_implies]
      · intro backendId owner
        simp [reverse, forall_eq_or_imp, visited, false_implies]

theorem resolve_unmapDevice (mirror : EntityRegistryMirror)
    (deviceId other : MirrorDeviceId) (capability : CapabilityKind) :
    (mirror.unmapDevice deviceId).resolve other capability =
      if other = deviceId then none else mirror.resolve other capability := by
  have unchanged : (mirror.unmapDevice deviceId).forward =
      (mirror.forward.entries.foldl (unmapEntry deviceId) mirror).forward := by
    simp only [unmapDevice, unmapBackendId]
    split <;> rfl
  rcases foldl_unmapEntry deviceId mirror.forward.entries mirror with ⟨_, _, forward, _⟩
  apply Option.ext
  intro ref
  simp only [resolve, unchanged, forward]
  by_cases same : other = deviceId
  · subst same
    simp only [if_true, reduceCtorEq, iff_false, not_and]
    intro stored untouched
    exact untouched _ (get_eq_some_iff.mp stored)
      (startsWith_keyPrefix_iff.mpr rfl) rfl
  · rw [if_neg same]
    refine ⟨fun both => both.1, fun stored => ⟨stored, ?_⟩⟩
    intro entry member visited equal
    rw [equal] at visited
    exact same (startsWith_keyPrefix_iff.mp visited)

@[simp]
theorem held_unmapDevice (mirror : EntityRegistryMirror) (deviceId : MirrorDeviceId)
    (holder : Holder) :
    (mirror.unmapDevice deviceId).held holder =
      if holder.deviceId = deviceId then none else mirror.held holder := by
  cases holder with
  | capability other kind =>
    by_cases same : other = deviceId <;>
      simp [held, resolve_unmapDevice, Holder.deviceId, same]
  | device other =>
    rcases foldl_unmapEntry deviceId mirror.forward.entries mirror with ⟨devices, _, _, _⟩
    simp only [held, backendIdOfDevice, unmapDevice, unmapBackendId, devices]
    split
    · rename_i absent
      by_cases same : other = deviceId
      · simp [same, devices, absent, Holder.deviceId]
      · simp [same, devices, Holder.deviceId]
    · by_cases same : other = deviceId <;> simp [same, Holder.deviceId]

def HeldByCapability (mirror : EntityRegistryMirror) (deviceId : MirrorDeviceId)
    (backendId : String) : Prop :=
  ∃ capability, mirror.held (.capability deviceId capability) = some backendId

theorem reverseLookup_unmapDevice (mirror : EntityRegistryMirror)
    (deviceId : MirrorDeviceId) (backendId : String) (owner : MirrorDeviceId × CapabilityKind) :
    (mirror.unmapDevice deviceId).reverseLookup backendId = some owner ↔
      mirror.reverseLookup backendId = some owner ∧
        ¬ mirror.HeldByCapability deviceId backendId := by
  have unchanged : (mirror.unmapDevice deviceId).reverse =
      (mirror.forward.entries.foldl (unmapEntry deviceId) mirror).reverse := by
    simp only [unmapDevice, unmapBackendId]
    split <;> rfl
  rcases foldl_unmapEntry deviceId mirror.forward.entries mirror with ⟨_, _, _, reverse⟩
  simp only [reverseLookup, unchanged, reverse]
  refine and_congr_right fun _ => ?_
  constructor
  · rintro untouched ⟨capability, holds⟩
    simp only [held, resolve, Option.map_eq_some_iff] at holds
    rcases holds with ⟨ref, stored, equal⟩
    exact untouched (entityKey deviceId capability, ref)
      (get_eq_some_iff.mp stored)
      (startsWith_keyPrefix_iff.mpr rfl) equal
  · rintro free ⟨key, ref⟩ member visited equal
    have stored := get_eq_some_iff.mpr member
    rcases mirror.keyed key ref stored with ⟨holder, capability, rfl⟩
    obtain rfl := startsWith_keyPrefix_iff.mp visited
    refine free ⟨capability, ?_⟩
    simp only [held, resolve, Option.map_eq_some_iff]
    exact ⟨ref, stored, equal⟩

theorem reverseLookupDevice_unmapDevice (mirror : EntityRegistryMirror)
    (deviceId : MirrorDeviceId) (backendId : String) (owner : MirrorDeviceId) :
    (mirror.unmapDevice deviceId).reverseLookupDevice backendId = some owner ↔
      mirror.reverseLookupDevice backendId = some owner ∧
        mirror.held (.device deviceId) ≠ some backendId := by
  rcases foldl_unmapEntry deviceId mirror.forward.entries mirror with
    ⟨devices, reverseDevices, _, _⟩
  simp only [held, backendIdOfDevice, reverseLookupDevice, unmapDevice, unmapBackendId, devices]
  split
  · rename_i absent
    simp [reverseDevices, absent]
  · rename_i stored present
    simp only [reverseDevices, OrderedMap.get_delete, present, ne_eq, Option.some.injEq]
    by_cases same : backendId = stored
    · simp [same]
    · have differs : ¬ stored = backendId := fun equal => same equal.symm
      simp [same, differs]

inductive Operation where
  | map (deviceId : MirrorDeviceId) (capability : CapabilityKind) (ref : BackendEntityRef)
  | mapDevice (deviceId : MirrorDeviceId) (backendId : String)
  | unmapDevice (deviceId : MirrorDeviceId)

def perform (mirror : EntityRegistryMirror) : Operation → EntityRegistryMirror
  | .map deviceId capability ref => mirror.map deviceId capability ref
  | .mapDevice deviceId backendId => mirror.mapDevice deviceId backendId
  | .unmapDevice deviceId => mirror.unmapDevice deviceId

/-- Operations performed one after another. -/
def machine : Machine EntityRegistryMirror Operation where
  step mirror operation := some (mirror.perform operation)

structure Indexed (mirror : EntityRegistryMirror) : Prop where
  /-- Exactly the backend ids that some holder resolves to are known. -/
  known : ∀ backendId, mirror.isKnownBackendId backendId = true ↔
    ∃ holder, mirror.held holder = some backendId
  /-- A reverse lookup names a capability that resolves to the backend id. -/
  inverse : ∀ backendId deviceId capability,
    mirror.reverseLookup backendId = some (deviceId, capability) →
      mirror.held (.capability deviceId capability) = some backendId

/--
The condition under which an operation keeps the reverse index.

A holder may move from one backend id to another only if the old id keeps
another holder, and, for a capability, if the reverse entry of the old id names
that other holder already.  A device may be unmapped only if each of its
backend ids loses its last reverse entry exactly when it loses its last holder:
the ids of its capabilities lose their capability entry, the id of the device
its device entry.
-/
def KeepsIndex (mirror : EntityRegistryMirror) : Operation → Prop
  | .map deviceId capability ref =>
    ∀ old, mirror.held (.capability deviceId capability) = some old → old ≠ ref.backendId →
      mirror.reverseLookup old ≠ some (deviceId, capability) ∧
        ∃ holder, holder ≠ .capability deviceId capability ∧ mirror.held holder = some old
  | .mapDevice deviceId backendId =>
    ∀ old, mirror.held (.device deviceId) = some old → old ≠ backendId →
      ∃ holder, holder ≠ .device deviceId ∧ mirror.held holder = some old
  | .unmapDevice deviceId =>
    ∀ backendId, mirror.HeldByCapability deviceId backendId ∨
          mirror.held (.device deviceId) = some backendId →
        (((∃ owner, mirror.reverseLookup backendId = some owner) ∧
            ¬ mirror.HeldByCapability deviceId backendId ∨
          (∃ owner, mirror.reverseLookupDevice backendId = some owner) ∧
            mirror.held (.device deviceId) ≠ some backendId) ↔
        ∃ holder, holder.deviceId ≠ deviceId ∧ mirror.held holder = some backendId)

theorem indexed_empty : Indexed empty where
  known backendId := by
    simp only [isKnownBackendId_iff, reverseLookup, reverseLookupDevice, empty,
      OrderedMap.get_empty, reduceCtorEq, exists_false, or_self, false_iff]
    rintro ⟨holder, holds⟩
    cases holder <;> simp [held, resolve, backendIdOfDevice] at holds
  inverse backendId deviceId capability found := by
    simp [reverseLookup, empty] at found

/--
If a holder moves to a backend id that becomes known, the known ids stay the
held ones exactly if the old id of the holder has another holder.
-/
theorem known_overwrite_iff {after : EntityRegistryMirror} {holder : Holder} {target : String}
    (known : ∀ backendId, mirror.isKnownBackendId backendId = true ↔
      ∃ other, mirror.held other = some backendId)
    (knownAfter : ∀ backendId, after.isKnownBackendId backendId = true ↔
      backendId = target ∨ mirror.isKnownBackendId backendId = true)
    (heldAfter : ∀ other, after.held other =
      if other = holder then some target else mirror.held other) :
    (∀ backendId, after.isKnownBackendId backendId = true ↔
        ∃ other, after.held other = some backendId) ↔
      ∀ old, mirror.held holder = some old → old ≠ target →
        ∃ other, other ≠ holder ∧ mirror.held other = some old := by
  constructor
  · intro exactly old holds differs
    have stillKnown := (knownAfter old).mpr (Or.inr ((known old).mpr ⟨holder, holds⟩))
    rcases (exactly old).mp stillKnown with ⟨other, holdsAfter⟩
    rw [heldAfter] at holdsAfter
    split at holdsAfter
    · rw [Option.some.injEq] at holdsAfter
      exact (differs holdsAfter.symm).elim
    · rename_i another
      exact ⟨other, another, holdsAfter⟩
  · intro keeps backendId
    rw [knownAfter, known]
    constructor
    · rintro (rfl | ⟨other, holds⟩)
      · exact ⟨holder, by rw [heldAfter, if_pos rfl]⟩
      · by_cases moved : other = holder
        · subst moved
          by_cases same : backendId = target
          · exact ⟨other, by rw [heldAfter, if_pos rfl, same]⟩
          · rcases keeps backendId holds same with ⟨another, differs, holdsAnother⟩
            exact ⟨another, by rw [heldAfter, if_neg differs, holdsAnother]⟩
        · exact ⟨other, by rw [heldAfter, if_neg moved, holds]⟩
    · rintro ⟨other, holds⟩
      rw [heldAfter] at holds
      split at holds
      · rw [Option.some.injEq] at holds
        exact Or.inl holds.symm
      · exact Or.inr ⟨other, holds⟩

theorem indexed_map_iff (indexed : Indexed mirror)
    (deviceId : MirrorDeviceId) (capability : CapabilityKind) (ref : BackendEntityRef) :
    Indexed (mirror.map deviceId capability ref) ↔
      mirror.KeepsIndex (.map deviceId capability ref) := by
  have overwrite := known_overwrite_iff indexed.known
    (isKnownBackendId_map mirror deviceId capability ref)
    (held_map mirror deviceId capability ref)
  constructor
  · intro after old holds differs
    refine ⟨?_, overwrite.mp after.known old holds differs⟩
    intro named
    have stale := after.inverse old deviceId capability
      (by rw [reverseLookup_map, if_neg differs, named])
    rw [held_map, if_pos rfl, Option.some.injEq] at stale
    exact differs stale.symm
  · intro keeps
    refine ⟨overwrite.mpr fun old holds differs => (keeps old holds differs).2, ?_⟩
    intro backendId owner kind found
    rw [reverseLookup_map] at found
    split at found
    · rename_i same
      simp only [Option.some.injEq, Prod.mk.injEq] at found
      rcases found with ⟨rfl, rfl⟩
      rw [held_map, if_pos rfl, same]
    · rename_i differs
      have holds := indexed.inverse backendId owner kind found
      rw [held_map]
      split
      · rename_i moved
        simp only [Holder.capability.injEq] at moved
        rcases moved with ⟨rfl, rfl⟩
        exact ((keeps backendId holds differs).1 found).elim
      · exact holds

theorem indexed_mapDevice_iff (indexed : Indexed mirror)
    (deviceId : MirrorDeviceId) (backendId : String) :
    Indexed (mirror.mapDevice deviceId backendId) ↔
      mirror.KeepsIndex (.mapDevice deviceId backendId) := by
  have overwrite := known_overwrite_iff indexed.known
    (isKnownBackendId_mapDevice mirror deviceId backendId)
    (held_mapDevice mirror deviceId backendId)
  refine ⟨fun after => overwrite.mp after.known, fun keeps => ⟨overwrite.mpr keeps, ?_⟩⟩
  intro query owner kind found
  rw [held_mapDevice, if_neg (by simp)]
  exact indexed.inverse query owner kind found

theorem indexed_unmapDevice_iff (indexed : Indexed mirror) (deviceId : MirrorDeviceId) :
    Indexed (mirror.unmapDevice deviceId) ↔ mirror.KeepsIndex (.unmapDevice deviceId) := by
  have knownAfter : ∀ backendId, (mirror.unmapDevice deviceId).isKnownBackendId backendId = true ↔
        (∃ owner, mirror.reverseLookup backendId = some owner) ∧
            ¬ mirror.HeldByCapability deviceId backendId ∨
          (∃ owner, mirror.reverseLookupDevice backendId = some owner) ∧
            mirror.held (.device deviceId) ≠ some backendId := by
    intro backendId
    simp only [isKnownBackendId_iff, reverseLookup_unmapDevice,
      reverseLookupDevice_unmapDevice, exists_and_right]
  have heldAfter : ∀ backendId,
      (∃ holder, (mirror.unmapDevice deviceId).held holder = some backendId) ↔
        ∃ holder, holder.deviceId ≠ deviceId ∧ mirror.held holder = some backendId := by
    intro backendId
    refine exists_congr fun holder => ?_
    rw [held_unmapDevice]
    by_cases same : holder.deviceId = deviceId <;> simp [same]
  constructor
  · intro after backendId _
    rw [← knownAfter, ← heldAfter]
    exact after.known backendId
  · intro keeps
    constructor
    · intro backendId
      rw [knownAfter, heldAfter]
      by_cases released : mirror.HeldByCapability deviceId backendId ∨
          mirror.held (.device deviceId) = some backendId
      · exact keeps backendId released
      · -- An id that the device does not hold keeps its holders and its entries.
        simp only [not_or] at released
        have before := indexed.known backendId
        rw [isKnownBackendId_iff] at before
        simp only [released.1, released.2, not_false_eq_true, and_true, ne_eq, before]
        refine exists_congr fun holder => ?_
        constructor
        · intro holds
          refine ⟨?_, holds⟩
          rintro rfl
          cases holder with
          | capability owner kind => exact released.1 ⟨kind, holds⟩
          | device owner => exact released.2 holds
        · exact fun both => both.2
    · intro backendId owner kind found
      rcases (reverseLookup_unmapDevice _ _ _ _).mp found with ⟨foundBefore, free⟩
      have holds := indexed.inverse backendId owner kind foundBefore
      rw [held_unmapDevice]
      by_cases same : owner = deviceId
      · subst same
        exact (free ⟨kind, holds⟩).elim
      · simpa [Holder.deviceId, same] using holds

/--
After any sequence of `map`, `mapDevice` and `unmapDevice` on an empty mirror,
and in every state on the way, the reverse index is the inverse of the forward
maps exactly if every operation meets `KeepsIndex` in the state it is applied to.
-/
theorem indexed_iff_keepsIndex (operations : List Operation) :
    machine.Throughout Indexed empty operations ↔ machine.Guarded KeepsIndex empty operations := by
  apply Machine.throughout_iff_guarded_of_step _ indexed_empty
  intro mirror operation next indexed step
  simp only [machine, Option.some.injEq] at step
  subst step
  cases operation with
  | map deviceId capability ref => exact indexed_map_iff indexed deviceId capability ref
  | mapDevice deviceId backendId => exact indexed_mapDevice_iff indexed deviceId backendId
  | unmapDevice deviceId => exact indexed_unmapDevice_iff indexed deviceId

/-- A lamp that is mapped to a second backend id stays known under the first. -/
theorem remapped_backendId_stays_known : ¬ machine.Throughout Indexed empty
      [.map ⟨"lamp", by decide⟩ .onoff ⟨"light.old", "light", none⟩,
        .map ⟨"lamp", by decide⟩ .onoff ⟨"light.new", "light", none⟩] := by
  intro throughout
  have indexed := Machine.property_of_throughout throughout rfl
  have named := indexed.inverse "light.old" ⟨"lamp", by decide⟩ .onoff (by decide)
  revert named
  decide

end EntityRegistryMirror

end SupremeOs.IntegrationLayer
