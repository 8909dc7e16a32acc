import SupremeOs.MatterBridge.Driver

/-!
# The indexes of the bridge

Whatever is called and whatever fails, the indexes of what is exposed are
inverse to each other, and what is exposed is recorded with its number.
-/

namespace SupremeOs.MatterBridge

open Support DomainModel List OrderedMap Option

/-- Two indexes that are inverse to each other. -/
def Mirrored {Identity : Type} (keyOf : Identity → String) (forward : OrderedMap Nat Identity)
    (reverse : OrderedMap String Nat) : Prop :=
  ∀ key number, reverse.get key = some number ↔
    ∃ identity, forward.get number = some identity ∧ keyOf identity = key

def Recorded (store : MatterEndpointStore) (button : Bool) (exposed : OrderedMap String Nat) :
    Prop :=
  ∀ key number, exposed.get key = some number →
    ∃ mapping, store.get key = some mapping ∧ mapping.endpointNumber = number ∧
      (namedControl mapping.controlId).isSome = button

def ButtonIdentity.key (identity : ButtonIdentity) : String :=
  matterEndpointKey identity.keypadId (some identity.controlId)

structure IndexesSound (driver : MatterBridgeDriver) : Prop where
  devices : Mirrored id driver.exposedDevices driver.endpointByDevice
  buttons : Mirrored ButtonIdentity.key driver.exposedButtons driver.endpointByButton
  devicesRecorded : Recorded driver.store false driver.endpointByDevice
  buttonsRecorded : Recorded driver.store true driver.endpointByButton

namespace MatterBridgeDriver

/-- `left` further numbers can be given out. -/
structure Sound (left : Nat) (driver : MatterBridgeDriver) : Prop where
  indexes : IndexesSound driver
  named : NamesDevices driver.store
  distinct : ∀ key other mapping found, driver.store.get key = some mapping →
    driver.store.get other = some found → mapping.endpointNumber = found.endpointNumber →
    key = other
  room : left < 2 ^ 53
  bounded : 0 < left → ∀ mapping ∈ driver.store.list, mapping.endpointNumber + left < 2 ^ 53

end MatterBridgeDriver

section Mirrored

variable {Identity : Type} {keyOf : Identity → String} {forward : OrderedMap Nat Identity}
variable {reverse : OrderedMap String Nat}

theorem mirrored_empty : Mirrored keyOf OrderedMap.empty OrderedMap.empty := by
  intro key number
  simp

theorem Mirrored.set (mirrored : Mirrored keyOf forward reverse) {identity : Identity}
    {number : Nat} (own : ∀ held, reverse.get (keyOf identity) = some held → held = number)
    (free : ∀ other, forward.get number = some other → keyOf other = keyOf identity) :
    Mirrored keyOf (forward.set number identity) (reverse.set (keyOf identity) number) := by
  intro key held
  rw [get_set, get_set]
  by_cases mine : key = keyOf identity
  · subst mine
    rw [if_pos rfl]
    by_cases same : held = number
    · subst same
      rw [if_pos rfl]
      exact iff_of_true rfl ⟨identity, rfl, rfl⟩
    · rw [if_neg same, ← mirrored]
      exact iff_of_false (fun found => same (some.inj found).symm)
        fun found => same (own held found)
  · rw [if_neg mine, mirrored]
    by_cases same : held = number
    · subst same
      rw [if_pos rfl]
      refine iff_of_false ?_ ?_
      · rintro ⟨other, found, rfl⟩
        exact mine (free other found)
      · rintro ⟨other, found, rfl⟩
        exact mine (congrArg keyOf (some.inj found).symm)
    · rw [if_neg same]

theorem Mirrored.delete (mirrored : Mirrored keyOf forward reverse) {key : String} {number : Nat}
    (found : reverse.get key = some number) :
    Mirrored keyOf (forward.delete number) (reverse.delete key) := by
  intro other held
  rw [OrderedMap.get_delete, OrderedMap.get_delete]
  rcases (mirrored key number).mp found with ⟨identity, stands, named⟩
  by_cases mine : other = key
  · subst mine
    rw [if_pos rfl]
    refine iff_of_false (fun none => by cases none) ?_
    rintro ⟨identity, standing, same⟩
    split at standing
    · cases standing
    · rename_i differs
      have again := (mirrored other held).mpr ⟨identity, standing, same⟩
      exact differs (some.inj (again.symm.trans found))
  · rw [if_neg mine, mirrored]
    by_cases same : held = number
    · subst same
      rw [if_pos rfl]
      refine iff_of_false ?_ (by rintro ⟨_, none, -⟩; cases none)
      rintro ⟨other', standing, rfl⟩
      cases stands.symm.trans standing
      exact mine named
    · rw [if_neg same]

end Mirrored

theorem Recorded.delete {store : MatterEndpointStore} {button : Bool}
    {exposed : OrderedMap String Nat} {key : String} (recorded : Recorded store button exposed) :
    Recorded store button (exposed.delete key) := by
  intro other number found
  rw [OrderedMap.get_delete] at found
  split at found
  · cases found
  · exact recorded other number found

namespace MatterBridgeDriver

section Registry

variable {store : MatterEndpointStore} {deviceId : SupremeId "dev"} {controlId : Option String}
variable {deviceTypeId : JsNumber} {name : String} {capabilityKinds : List String}

/-- What is resolved is recorded under its key, and has the number and type that it had. -/
structure Resolves (store : MatterEndpointStore) (deviceId : SupremeId "dev")
    (controlId : Option String) (deviceTypeId : JsNumber) (after : MatterEndpointStore)
    (mapping : MatterEndpointMapping) : Prop where
  here : after.get (matterEndpointKey deviceId.text controlId) = some mapping
  elsewhere : ∀ key, key ≠ matterEndpointKey deviceId.text controlId → after.get key = store.get key
  kept : ∀ existing, store.get (matterEndpointKey deviceId.text controlId) = some existing →
    mapping.endpointNumber = existing.endpointNumber ∧
      mapping.deviceTypeId = existing.deviceTypeId ∧ mapping.deviceId = existing.deviceId ∧
      mapping.controlId = existing.controlId
  fresh : store.get (matterEndpointKey deviceId.text controlId) = none →
    mapping.endpointNumber = nextEndpointNumber store ∧ mapping.deviceTypeId = deviceTypeId ∧
      mapping.deviceId = deviceId.text ∧ mapping.controlId = controlId

theorem get_put (mapping : MatterEndpointMapping) (key : String) :
    (store.put mapping).get key = if key = mapping.key then some mapping else store.get key :=
  KeyedStore.get_put ..

theorem get_remove (removed key : String) :
    (store.remove removed).get key = if key = removed then none else store.get key :=
  KeyedStore.get_remove ..

variable {mapping : MatterEndpointMapping}

theorem mem_list_iff : mapping ∈ store.list ↔ store.get mapping.key = some mapping :=
  KeyedStore.mem_list_iff

theorem mem_list_of_get {key : String}
    (found : store.get key = some mapping) : mapping ∈ store.list := by
  rw [mem_list_iff, MatterEndpointStore.key_of_get found]
  exact found

theorem resolves_resolveInternal : Resolves store deviceId controlId deviceTypeId
      (resolveInternal store deviceId controlId deviceTypeId name capabilityKinds).1
      (resolveInternal store deviceId controlId deviceTypeId name capabilityKinds).2 := by
  unfold resolveInternal
  cases found : store.get (matterEndpointKey deviceId.text controlId) with
  | some existing =>
    have key := MatterEndpointStore.key_of_get found
    dsimp only
    split
    · refine ⟨?_, fun other differs => ?_, ?_, ?_⟩
      · rw [get_put]
        exact if_pos key.symm
      · rw [get_put]
        exact if_neg fun same => differs (same.trans key)
      · rintro _ same
        rw [found] at same
        cases same
        exact ⟨rfl, rfl, rfl, rfl⟩
      · intro none
        rw [found] at none
        cases none
    · refine ⟨found, fun _ _ => rfl, ?_, ?_⟩
      · rintro _ same
        rw [found] at same
        cases same
        exact ⟨rfl, rfl, rfl, rfl⟩
      · intro none
        rw [found] at none
        cases none
  | none =>
    refine ⟨?_, fun other differs => ?_, ?_, fun _ => ⟨rfl, rfl, rfl, rfl⟩⟩
    · rw [get_put]
      exact if_pos rfl
    · rw [get_put]
      exact if_neg differs
    · intro _ same
      rw [found] at same
      cases same

end Registry

variable {driver : MatterBridgeDriver} {left : Nat} {key : String} {number : Nat}

theorem Sound.next (sound : Sound (left + 1) driver) :
    nextEndpointNumber driver.store + left < 2 ^ 53 ∧ ∀ mapping ∈ driver.store.list,
        mapping.endpointNumber < nextEndpointNumber driver.store := by
  have bounded := sound.bounded (Nat.succ_pos left)
  have room := sound.room
  rw [nextEndpointNumber]
  cases found : (driver.store.list.map MatterEndpointMapping.endpointNumber).max? with
  | none =>
    have empty := map_eq_nil_iff.mp (max?_eq_none_iff.mp found)
    rw [empty]
    dsimp only
    exact ⟨by omega, fun _ member => absurd member not_mem_nil⟩
  | some highest =>
    rcases max?_eq_some_iff.mp found with ⟨member, above⟩
    rcases mem_map.mp member with ⟨mapping, inside, rfl⟩
    have small := bounded mapping inside
    have exact_next : plusOne mapping.endpointNumber = mapping.endpointNumber + 1 :=
      if_pos (by omega)
    dsimp only
    rw [exact_next]
    refine ⟨by omega, fun other listed => ?_⟩
    exact Nat.lt_succ_of_le (above _ (mem_map_of_mem listed))

theorem Sound.fewer (sound : Sound (left + 1) driver) : Sound left driver where
  indexes := sound.indexes
  named := sound.named
  distinct := sound.distinct
  room := Nat.lt_of_succ_lt sound.room
  bounded _ mapping member :=
    Nat.lt_of_succ_lt (sound.bounded (Nat.succ_pos left) mapping member)

variable {mapping : MatterEndpointMapping}

theorem Sound.owner_of_get {deviceId : SupremeId "dev"} {controlId : Option String}
    (sound : Sound left driver)
    (found : driver.store.get (matterEndpointKey deviceId.text controlId) = some mapping) :
    mapping.deviceId = deviceId.text ∧ namedControl mapping.controlId = namedControl controlId := by
  have same := MatterBridge.owner_of_get sound.named found
  exact ⟨congrArg EndpointOwner.deviceId same, congrArg EndpointOwner.controlId same⟩

theorem Sound.resolves {deviceId : SupremeId "dev"} {controlId : Option String}
    {deviceTypeId : JsNumber} {after : MatterEndpointStore} {mapping : MatterEndpointMapping}
    (sound : Sound (left + 1) driver)
    (resolves : Resolves driver.store deviceId controlId deviceTypeId after mapping) :
    Sound left { driver with store := after } := by
  have next := sound.next
  have recorded {button : Bool} {exposed : OrderedMap String Nat}
      (before : Recorded driver.store button exposed) : Recorded after button exposed := by
    intro key number found
    rcases before key number found with ⟨held, stands, numbered, kind⟩
    by_cases here : key = matterEndpointKey deviceId.text controlId
    · rw [here] at stands
      have kept := resolves.kept held stands
      exact ⟨mapping, here ▸ resolves.here, kept.1.trans numbered, kept.2.2.2 ▸ kind⟩
    · exact ⟨held, (resolves.elsewhere key here).trans stands, numbered, kind⟩
  -- A mapping after the call is an older one, or the new one with a new number.
  have origin {key : String} {held : MatterEndpointMapping} (stands : after.get key = some held) :
      (∃ older, driver.store.get key = some older ∧
          held.endpointNumber = older.endpointNumber ∧ held.deviceId = older.deviceId) ∨
        key = matterEndpointKey deviceId.text controlId ∧ driver.store.get key = none ∧
          held.endpointNumber = nextEndpointNumber driver.store ∧
          held.deviceId = deviceId.text := by
    by_cases here : key = matterEndpointKey deviceId.text controlId
    · subst here
      cases resolves.here.symm.trans stands
      cases was : driver.store.get (matterEndpointKey deviceId.text controlId) with
      | some older =>
        have kept := resolves.kept older was
        exact .inl ⟨older, rfl, kept.1, kept.2.2.1⟩
      | none =>
        have fresh := resolves.fresh was
        exact .inr ⟨rfl, rfl, fresh.1, fresh.2.2.1⟩
    · exact .inl ⟨held, (resolves.elsewhere key here).symm.trans stands, rfl, rfl⟩
  refine ⟨⟨sound.indexes.devices, sound.indexes.buttons, recorded sound.indexes.devicesRecorded,
    recorded sound.indexes.buttonsRecorded⟩, ?_, ?_, Nat.lt_of_succ_lt sound.room, ?_⟩
  · intro held member
    rcases origin (mem_list_iff.mp member) with ⟨older, was, -, same⟩ | ⟨-, -, -, same⟩
    · rw [same]
      exact sound.named older (mem_list_of_get was)
    · rw [same]
      exact deviceId.valid
  · intro key other held found stands standing same
    rcases origin stands with ⟨older, was, kept, -⟩ | ⟨here, -, fresh, -⟩ <;>
      rcases origin standing with ⟨olderToo, wasToo, keptToo, -⟩ | ⟨hereToo, -, freshToo, -⟩
    · exact sound.distinct key other older olderToo was wasToo (by rw [← kept, same, keptToo])
    · have less := next.2 older (mem_list_of_get was)
      omega
    · have less := next.2 olderToo (mem_list_of_get wasToo)
      omega
    · exact here.trans hereToo.symm
  · intro _ held member
    rcases origin (mem_list_iff.mp member) with ⟨older, was, same, -⟩ | ⟨-, -, same, -⟩
    · have small := sound.bounded (Nat.succ_pos left) older (mem_list_of_get was)
      omega
    · have small := next.1
      omega

theorem Sound.remove (sound : Sound left driver) {file : Option RegistryFile}
    (hidden : driver.endpointByDevice.get key = none ∧ driver.endpointByButton.get key = none) :
    Sound left { driver with store := { driver.store.remove key with file := file } } := by
  have removed (other : String) : ({ driver.store.remove key with file := file } :
      MatterEndpointStore).get other = if other = key then none else driver.store.get other :=
    get_remove key other
  have older {other : String} {held : MatterEndpointMapping}
      (stands : ({ driver.store.remove key with file := file } : MatterEndpointStore).get other =
        some held) : driver.store.get other = some held := by
    rw [removed] at stands
    split at stands
    · cases stands
    · exact stands
  have recorded {button : Bool} {exposed : OrderedMap String Nat}
      (before : Recorded driver.store button exposed) (none : exposed.get key = none) :
      Recorded { driver.store.remove key with file := file } button exposed := by
    intro other number found
    rcases before other number found with ⟨held, stands, rest⟩
    refine ⟨held, ?_, rest⟩
    rw [removed, if_neg]
    · exact stands
    · rintro rfl
      rw [none] at found
      cases found
  refine ⟨⟨sound.indexes.devices, sound.indexes.buttons,
    recorded sound.indexes.devicesRecorded hidden.1,
    recorded sound.indexes.buttonsRecorded hidden.2⟩, ?_, ?_, sound.room, ?_⟩
  · exact fun held member =>
      sound.named held (mem_list_of_get (older (mem_list_iff.mp member)))
  · exact fun key other held found stands standing =>
      sound.distinct key other held found (older stands) (older standing)
  · exact fun more held member =>
      sound.bounded more held (mem_list_of_get (older (mem_list_iff.mp member)))
section Resolved

variable {deviceId : SupremeId "dev"} {controlId : Option String} {deviceTypeId : JsNumber}
variable {name : String} {capabilityKinds : List String} {rejected : Option String}

theorem resolved_cases :
    ∃ after mapping, Resolves driver.store deviceId controlId deviceTypeId after mapping ∧
      (driver.resolved deviceId controlId deviceTypeId name capabilityKinds rejected =
          (.ok mapping, { driver with store := after }) ∨ ∃ message, rejected = some message ∧
          driver.resolved deviceId controlId deviceTypeId name capabilityKinds rejected =
            (.error message, { driver with store := after })) := by
  have resolves := @resolves_resolveInternal driver.store deviceId controlId deviceTypeId name
    capabilityKinds
  have same : ∃ after mapping, Resolves driver.store deviceId controlId deviceTypeId after
      mapping ∧ resolveInternal driver.store deviceId controlId deviceTypeId name
        capabilityKinds = (after, mapping) := ⟨_, _, resolves, rfl⟩
  rcases same with ⟨after, mapping, holds, computed⟩
  rw [resolved, computed]
  cases rejected with
  | none => exact ⟨after, mapping, holds, .inl rfl⟩
  | some message =>
    dsimp only
    split
    · refine ⟨unsaved driver.store after, mapping, ?_, .inr ⟨message, rfl, rfl⟩⟩
      exact ⟨holds.here, holds.elsewhere, holds.kept, holds.fresh⟩
    · exact ⟨after, mapping, holds, .inl rfl⟩

end Resolved

theorem Sound.trackDevice (sound : Sound left driver) {mapping : MatterEndpointMapping}
    {deviceType : MatterDeviceTypeDefinition} (stands : driver.store.get key = some mapping)
    (device : namedControl mapping.controlId = none) :
    Sound left (driver.trackDevice mapping key deviceType) := by
  refine ⟨⟨?_, sound.indexes.buttons, ?_, sound.indexes.buttonsRecorded⟩, sound.named,
    sound.distinct, sound.room, sound.bounded⟩
  · refine sound.indexes.devices.set (fun number found => ?_) fun other found => ?_
    · rcases sound.indexes.devicesRecorded key number found with ⟨held, standing, numbered, -⟩
      rw [← some.inj (stands.symm.trans standing)] at numbered
      exact numbered.symm
    · have shown := (sound.indexes.devices other mapping.endpointNumber).mpr ⟨other, found, rfl⟩
      rcases sound.indexes.devicesRecorded other _ shown with ⟨held, standing, numbered, -⟩
      exact sound.distinct other key held mapping standing stands numbered
  · intro other number found
    have found' := (get_set driver.endpointByDevice key other _).symm.trans found
    split at found'
    · rename_i same
      exact ⟨mapping, same ▸ stands, some.inj found', by rw [device]; rfl⟩
    · exact sound.indexes.devicesRecorded other number found'

theorem Sound.trackButton (sound : Sound left driver) {mapping : MatterEndpointMapping}
    {identity : ButtonIdentity} {deviceType : MatterDeviceTypeDefinition}
    (stands : driver.store.get identity.key = some mapping)
    (button : (namedControl mapping.controlId).isSome = true) :
    Sound left (driver.trackButton mapping identity deviceType) := by
  refine ⟨⟨sound.indexes.devices, ?_, sound.indexes.devicesRecorded, ?_⟩, sound.named,
    sound.distinct, sound.room, sound.bounded⟩
  · refine sound.indexes.buttons.set (fun number found => ?_) fun other found => ?_
    · rcases sound.indexes.buttonsRecorded identity.key number found with
        ⟨held, standing, numbered, -⟩
      rw [← some.inj (stands.symm.trans standing)] at numbered
      exact numbered.symm
    · have shown := (sound.indexes.buttons other.key mapping.endpointNumber).mpr ⟨other, found, rfl⟩
      rcases sound.indexes.buttonsRecorded other.key _ shown with ⟨held, standing, numbered, -⟩
      exact sound.distinct other.key identity.key held mapping standing stands numbered
  · intro other number found
    have found' := (get_set driver.endpointByButton identity.key other _).symm.trans
      found
    split at found'
    · rename_i same
      exact ⟨mapping, same ▸ stands, some.inj found', button⟩
    · exact sound.indexes.buttonsRecorded other number found'

theorem Sound.removeLight (sound : Sound left driver) {rejected : Option String} :
    Sound left (driver.removeLight key rejected).2 := by
  unfold MatterBridgeDriver.removeLight
  split
  · exact sound
  · exact sound
  · rename_i number found
    exact ⟨⟨sound.indexes.devices.delete found, sound.indexes.buttons,
      sound.indexes.devicesRecorded.delete, sound.indexes.buttonsRecorded⟩, sound.named,
      sound.distinct, sound.room, sound.bounded⟩

theorem Sound.removeKeypadButton (sound : Sound left driver) {keypadId controlId : String}
    {rejected : Option String} :
    Sound left (driver.removeKeypadButton keypadId controlId rejected).2 := by
  unfold MatterBridgeDriver.removeKeypadButton
  dsimp only
  split
  · exact sound
  · exact sound
  · rename_i number found
    exact ⟨⟨sound.indexes.devices, sound.indexes.buttons.delete found,
      sound.indexes.devicesRecorded, sound.indexes.buttonsRecorded.delete⟩, sound.named,
      sound.distinct, sound.room, sound.bounded⟩
theorem Sound.not_both (sound : Sound left driver) (device : driver.endpointByDevice.has key = true)
    (button : driver.endpointByButton.has key = true) : False := by
  rcases has_iff.mp device with ⟨number, found⟩
  rcases has_iff.mp button with ⟨other, foundToo⟩
  rcases sound.indexes.devicesRecorded key number found with ⟨mapping, stands, -, isDevice⟩
  rcases sound.indexes.buttonsRecorded key other foundToo with ⟨held, standing, -, isButton⟩
  cases stands.symm.trans standing
  rw [isDevice] at isButton
  cases isButton

theorem get_none_of_has {Value : Type} {index : OrderedMap String Value} {key : String}
    (absent : ¬index.has key = true) : index.get key = none := by
  rw [OrderedMap.has, Option.isSome_iff_ne_none, not_not] at absent
  exact absent

theorem key_of_button {control : String} (named : namedControl mapping.controlId = some control) :
    mapping.key = ButtonIdentity.key ⟨mapping.deviceId, control⟩ := by
  have again : namedControl (some control) = some control :=
    Option.filter_eq_some_iff.mpr ⟨rfl, (Option.filter_eq_some_iff.mp named).2⟩
  rw [MatterEndpointMapping.key, ButtonIdentity.key, matterEndpointKey, matterEndpointKey, named,
    again]

theorem key_of_device
    (device : namedControl mapping.controlId = none) : mapping.key = mapping.deviceId := by
  rw [MatterEndpointMapping.key, matterEndpointKey, device]

section Start

variable {types : MatterDeviceTypeRegistry} {mapping : MatterEndpointMapping}

theorem Sound.ofSame {other : MatterBridgeDriver} (sound : Sound left driver)
    (store : other.store = driver.store) (devices : other.exposedDevices = driver.exposedDevices)
    (endpoints : other.endpointByDevice = driver.endpointByDevice)
    (buttons : other.exposedButtons = driver.exposedButtons)
    (buttonEndpoints : other.endpointByButton = driver.endpointByButton) : Sound left other := by
  rcases sound with ⟨⟨mirrored, buttonsMirrored, recorded, buttonsRecorded⟩, named, distinct,
    room, bounded⟩
  refine ⟨⟨?_, ?_, ?_, ?_⟩, ?_, ?_, room, ?_⟩ <;>
    simpa only [store, devices, endpoints, buttons, buttonEndpoints]

theorem store_reexpose (calls : Nat → ReexposeCalls) :
    (reexpose types calls driver mapping).store = driver.store := by
  unfold reexpose
  split
  · rfl
  · dsimp only
    split <;> rfl

theorem Sound.reexpose (sound : Sound left driver) (listed : mapping ∈ driver.store.list)
    (calls : Nat → ReexposeCalls) : Sound left (reexpose types calls driver mapping) := by
  have stands := mem_list_iff.mp listed
  unfold MatterBridgeDriver.reexpose
  split
  · exact sound
  · rename_i deviceType found
    dsimp only
    split
    · exact sound
    · rename_i control _ named
      have button : (namedControl mapping.controlId).isSome = true := by
        rw [named]
        rfl
      have key := key_of_button named
      have tracked := @Sound.trackButton driver left sound mapping ⟨mapping.deviceId, control⟩
        deviceType (key ▸ stands) button
      exact tracked.ofSame rfl rfl rfl rfl rfl
    · rename_i device
      exact sound.trackDevice (key_of_device device ▸ stands) device

theorem Sound.start (sound : Sound left driver) (calls : StartCalls) :
    Sound left (driver.start types calls).2 := by
  have reexposed (mappings : List MatterEndpointMapping) :
      ∀ driver, Sound left driver → (∀ mapping ∈ mappings, mapping ∈ driver.store.list) →
        Sound left (mappings.foldl (MatterBridgeDriver.reexpose types calls.reexpose) driver) := by
    induction mappings with
    | nil => exact fun _ sound _ => sound
    | cons first rest ih =>
      intro driver sound listed
      refine ih _ (sound.reexpose (listed first (.head _)) _) fun mapping member => ?_
      rw [store_reexpose]
      exact listed mapping (.tail _ member)
  rw [MatterBridgeDriver.start]
  split
  · exact sound
  · split
    · exact sound
    · have all := reexposed driver.store.list driver sound fun _ member => member
      exact all.ofSame rfl rfl rfl rfl rfl

theorem Sound.stop (sound : Sound left driver) (rejected : Option String) :
    Sound left (driver.stop rejected).2 := by
  unfold MatterBridgeDriver.stop
  split <;> exact sound.ofSame rfl rfl rfl rfl rfl

theorem sound_constructed {start : RegistryState} (started : Started start) :
    Sound 0 (constructed start.store) := by
  have identities := (identitiesSound_of_started started).distinct
  have numbers : (start.store.list.map MatterEndpointMapping.endpointNumber).Nodup := by
    rw [MatterEndpointStore.identities, List.map_map] at identities
    exact identities
  refine ⟨⟨mirrored_empty, mirrored_empty, ?_, ?_⟩, (sound_of_started started).named,
    fun key other mapping found stands standing same => ?_, by decide, fun none => ?_⟩
  · intro key number found
    cases (OrderedMap.get_empty key).symm.trans found
  · intro key number found
    cases (OrderedMap.get_empty key).symm.trans found
  · have one := inj_on_of_nodup_map numbers (mem_list_of_get stands)
      (mem_list_of_get standing) same
    rw [← MatterEndpointStore.key_of_get stands, ← MatterEndpointStore.key_of_get standing, one]
  · cases none

end Start

end MatterBridgeDriver

end SupremeOs.MatterBridge
