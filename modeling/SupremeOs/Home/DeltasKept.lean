import SupremeOs.Home.HomeService
import SupremeOs.Support.Histories
import SupremeOs.Support.Updates

/-!
# State deltas and edits are not lost

When no call is in flight, each field of a stored device should be what the
last call that sets it has made of it: its name, room and owner, the value of a
metadata key, the configuration of a capability and the state of a kind.  A
device that was removed should not be back unless it is added again.

An operation writes back a device, or all its states, as it has read them some
time before.  This is right as long as it writes what it would make of the
device that is stored by then, and comes before no call that was made later and
has already set the same field.
-/

namespace SupremeOs.Home

open Support DomainModel List Option

inductive DeviceField where
  | name
  | room
  | owner
  | metadata (key : String)
  | config (capability : CapabilityKind)
  | state (kind : CapabilityKind)
deriving DecidableEq

namespace DeviceChange

def fields : DeviceChange → List DeviceField
  | .reported state => [.state state.kind]
  | .patched patch =>
    patch.name.toList.map (fun _ => .name) ++ patch.roomId.toList.map (fun _ => .room) ++
      patch.metadata.toList.flatMap fun bag => bag.keys.map .metadata
  | .owned _ => [.owner]
  | .moved _ => [.room]
  | .metadataMerged patch => patch.keys.map .metadata
  | .configured capability _ => [.config capability]

def Gives (device : Device) : DeviceChange → DeviceField → Prop
  | .reported state, .state kind => state.kind = kind → device.state.get kind = some state
  | .patched patch, .name => ∀ name ∈ patch.name, device.name = name
  | .patched patch, .room => ∀ roomId ∈ patch.roomId, device.roomId = some roomId
  | .patched patch, .metadata key =>
    ∀ bag ∈ patch.metadata, ∀ value ∈ bag.get key, device.metadata.get key = some value
  | .owned driverId, .owner => device.driverId = some driverId
  | .moved roomId, .room => device.roomId = roomId
  | .metadataMerged patch, .metadata key =>
    ∀ value ∈ patch.get key, device.metadata.get key = some value
  | .configured capability config, .config kind =>
    capability = kind → ∀ entry ∈ device.capabilities, entry.kind = kind → entry.config = config
  | _, _ => True

end DeviceChange

def capabilitiesOf (kind : CapabilityKind) (device : Device) : List DeviceCapability :=
  device.capabilities.filter fun entry => entry.kind = kind

def SameField (device other : Device) : DeviceField → Prop
  | .name => device.name = other.name
  | .room => device.roomId = other.roomId
  | .owner => device.driverId = other.driverId
  | .metadata key => device.metadata.get key = other.metadata.get key
  | .config kind => capabilitiesOf kind device = capabilitiesOf kind other
  | .state kind => device.state.get kind = other.state.get kind

namespace DeviceRecord

def Sets (id : DeviceId) (field : DeviceField) : DeviceRecord → Prop
  | .added device => device.id = id
  | .changed other change => other = id ∧ field ∈ change.fields
  | .removed _ => False

instance (id : DeviceId) (field : DeviceField) : ∀ entry, Decidable (Sets id field entry) := by
  intro entry
  unfold Sets
  split <;> infer_instance

def Gives (device : Device) (field : DeviceField) : DeviceRecord → Prop
  | .added given => SameField given device field
  | .changed _ change => change.Gives device field
  | .removed _ => True

def presence (id : DeviceId) : DeviceRecord → Option Bool
  | .added device => if device.id = id then some false else none
  | .changed _ _ => none
  | .removed other => if other = id then some true else none

end DeviceRecord

/-- The last call that sets a field, which counts with its last write. -/
def LastSets (history : List (Nat × DeviceRecord)) (id : DeviceId) (field : DeviceField)
    (entry : Nat × DeviceRecord) : Prop :=
  ∃ earlier later, history = earlier ++ entry :: later ∧ entry.2.Sets id field ∧
    (∀ other ∈ earlier, other.2.Sets id field → other.1 ≤ entry.1) ∧
    ∀ other ∈ later, other.2.Sets id field → other.1 < entry.1

structure DeltasKept (initial : HomeService) (config : Config HomeService HomeCall) : Prop where
  last : config.pending = [] → ∀ id stored field, config.shared.devices.get id = some stored →
    ∀ entry, LastSets config.shared.history id field entry → entry.2.Gives stored.device field
  /-- What no call has set is as it was at the start. -/
  untouched : config.pending = [] → ∀ id stored field, config.shared.devices.get id = some stored →
    (∀ entry ∈ config.shared.history, ¬entry.2.Sets id field) →
    ∃ first, initial.devices.get id = some first ∧ SameField first.device stored.device field
  gone : ∀ earlier call id later, config.shared.history = earlier ++ (call, .removed id) :: later →
    (∀ entry ∈ later, ∀ device, entry.2 = .added device → device.id ≠ id) →
    config.shared.devices.get id = none

/-- Both calls set a field of one device. -/
def Overlap : DeviceRecord → DeviceRecord → Prop
  | .added device, .added other => device.id = other.id
  | .added device, .changed id change | .changed id change, .added device =>
    device.id = id ∧ change.fields ≠ []
  | .changed id change, .changed other second =>
    id = other ∧ ∃ field ∈ change.fields, field ∈ second.fields
  | .removed _, _ | _, .removed _ => False

instance : ∀ entry other, Decidable (Overlap entry other) := by
  intro entry other
  unfold Overlap
  split <;> infer_instance

/-- No call that was made later has set a field that this one sets. -/
def Latest (home : HomeService) (call : Nat) (entry : DeviceRecord) : Prop :=
  ∀ other ∈ home.history, Overlap other.2 entry → other.1 ≤ call

instance (home : HomeService) (call : Nat) (entry : DeviceRecord) :
    Decidable (Latest home call entry) := inferInstanceAs (Decidable (∀ other ∈ home.history, _))

/--
What is written is what the operation would make of the device that is stored
now, and no later call has set the same.
-/
def writesDelta (home : HomeService) : HomeCall → Prop
  | .putDevice call stored (.changed id change) _ =>
    ((home.devices.get id).map fun current =>
        (⟨change.apply current.device, current.backendIds⟩ : StoredDevice)) = some stored ∧
      Latest home call (.changed id change)
  | .putDevice call _ entry _ => Latest home call entry
  | .updateDeviceState call id nextState state =>
    ∀ current ∈ home.devices.get id, nextState = current.device.state.set state.kind state ∧
        Latest home call (.changed id (.reported state))
  | .getDevice _ _ _ | .getRoom _ _ _ | .listDevices _ _ | .unmapDevice _ _ _
  | .deleteDevice _ _ _ | .putRoom _ | .deleteRoom _ => True

instance (home : HomeService) : ∀ call, Decidable (writesDelta home call) := by
  intro call
  unfold writesDelta
  split <;> infer_instance

/-- The condition on the call that goes on; one that rejects writes nothing. -/
def deltaGuard (config : Config HomeService HomeCall) : Schedule HomeRequest HomeReply → Prop
  | .call _ | .resume _ .rejected => True
  | .resume index .resolved => ∀ call ∈ config.pending[index]?, writesDelta config.shared call

instance (config : Config HomeService HomeCall) : ∀ label, Decidable (deltaGuard config label) := by
  intro label
  unfold deltaGuard
  split <;> infer_instance

section Fields

variable {device other third : Device} {field : DeviceField} {change : DeviceChange}
variable {entry : DeviceRecord} {id : DeviceId}

theorem SameField.refl (device : Device) (field : DeviceField) : SameField device device field := by
  cases field <;> rfl

theorem SameField.trans (first : SameField device other field)
    (second : SameField other third field) : SameField device third field := by
  cases field <;> exact Eq.trans first second

theorem DeviceChange.Gives.of_same (gives : change.Gives device field)
    (same : SameField device other field) : change.Gives other field := by
  cases field with
  | config kind =>
    cases change with
    | configured capability config =>
      intro own entry member ofKind
      have listed : entry ∈ capabilitiesOf kind device := by
        rw [show capabilitiesOf kind device = capabilitiesOf kind other from same]
        exact mem_filter.mpr ⟨member, by simpa using ofKind⟩
      exact gives own entry (mem_filter.mp listed).1 ofKind
    | reported _ | patched _ | owned _ | moved _ | metadataMerged _ => trivial
  | name | room | owner | metadata _ | state _ =>
    simp only [SameField] at same
    cases change <;> simp only [Gives, same] at gives ⊢ <;> exact gives

theorem DeviceRecord.Gives.of_same (gives : entry.Gives device field)
    (same : SameField device other field) : entry.Gives other field := by
  cases entry with
  | added given => exact SameField.trans gives same
  | changed id change => exact DeviceChange.Gives.of_same gives same
  | removed id => trivial

theorem DeviceChange.gives_apply (change : DeviceChange) (device : Device) (field : DeviceField) :
    change.Gives (change.apply device) field := by
  cases change with
  | reported state =>
    cases field <;> simp +contextual [Gives, apply]
  | patched patch =>
    cases field <;> simp +contextual [Gives, apply]
  | owned driverId | moved roomId => cases field <;> simp [Gives, apply]
  | metadataMerged patch => cases field <;> simp +contextual [Gives, apply]
  | configured capability config =>
    cases field with
    | config kind =>
      rintro rfl entry member ofKind
      rcases mem_map.mp member with ⟨before, _, rfl⟩
      by_cases own : before.kind = capability
      · simp [own]
      · simp [own] at ofKind
    | name | room | owner | metadata _ | state _ => trivial

theorem get_eq_none_of_not_mem_keys {map : OrderedMap String JsValue} {key : String}
    (absent : key ∉ map.keys) : map.get key = none := by
  simpa [OrderedMap.mem_keys_iff, OrderedMap.has] using absent

theorem capabilitiesOf_configured {capability kind : CapabilityKind}
    {config : OrderedMap String JsValue} (differs : kind ≠ capability) (device : Device) :
    capabilitiesOf kind ((DeviceChange.configured capability config).apply device) =
      capabilitiesOf kind device := by
  simp only [capabilitiesOf, DeviceChange.apply]
  induction device.capabilities with
  | nil => rfl
  | cons first rest ih =>
    by_cases own : first.kind = capability
    · have other : first.kind ≠ kind := fun same => differs (same.symm.trans own)
      have other' : capability ≠ kind := differs.symm
      simp [own, other', ih]
    · by_cases ofKind : first.kind = kind
      · simp [ofKind, ih, differs]
      · simp [own, ofKind, ih]

/-- The rest of the device is written back as it was. -/
theorem DeviceChange.sameField_apply (absent : field ∉ change.fields) :
    SameField device (change.apply device) field := by
  cases change with
  | reported state =>
    cases field with
    | state kind =>
      have differs : kind ≠ state.kind := by simpa [fields] using absent
      simp [SameField, apply, differs]
    | name | room | owner | metadata _ | config _ => rfl
  | patched patch =>
    cases field with
    | name =>
      have unset : patch.name = none := by
        simpa [fields, eq_none_iff_forall_ne_some] using absent
      simp [SameField, apply, unset]
    | room =>
      have unset : patch.roomId = none := by
        simpa [fields, eq_none_iff_forall_ne_some] using absent
      simp [SameField, apply, unset]
    | metadata key =>
      simp only [SameField, apply]
      cases given : patch.metadata with
      | none => rfl
      | some bag =>
        have unset : key ∉ bag.keys := by
          simpa [fields, given] using absent
        simp [get_eq_none_of_not_mem_keys unset]
    | owner | config _ | state _ => rfl
  | owned driverId =>
    cases field with
    | owner => simp [fields] at absent
    | name | room | metadata _ | config _ | state _ => rfl
  | moved roomId =>
    cases field with
    | room => simp [fields] at absent
    | name | owner | metadata _ | config _ | state _ => rfl
  | metadataMerged patch =>
    cases field with
    | metadata key =>
      have unset : key ∉ patch.keys := by simpa [fields] using absent
      simp [SameField, apply, get_eq_none_of_not_mem_keys unset]
    | name | room | owner | config _ | state _ => rfl
  | configured capability config =>
    cases field with
    | config kind =>
      have differs : kind ≠ capability := by simpa [fields] using absent
      exact (capabilitiesOf_configured differs device).symm
    | name | room | owner | metadata _ | state _ => rfl

theorem overlap_of_sets {other : DeviceRecord} (first : other.Sets id field)
    (second : entry.Sets id field) : Overlap other entry := by
  cases other with
  | added given =>
    cases entry with
    | added device => exact Eq.trans first (Eq.symm second)
    | changed changedId change =>
      exact ⟨Eq.trans first (Eq.symm second.1), ne_nil_of_mem second.2⟩
    | removed removedId => exact second.elim
  | changed otherId earlier =>
    cases entry with
    | added device =>
      exact ⟨Eq.trans second (Eq.symm first.1), ne_nil_of_mem first.2⟩
    | changed changedId change => exact ⟨first.1.trans second.1.symm, field, first.2, second.2⟩
    | removed removedId => exact second.elim
  | removed otherId => exact first.elim

end Fields

def asks (id : DeviceId) (field : DeviceField) (entry : Nat × DeviceRecord) :
    Option (Device → Prop) :=
  if entry.2.Sets id field then some fun device => entry.2.Gives device field else none

/-- The field is as it was at the start. -/
def AsFirst (initial : HomeService) (id : DeviceId) (field : DeviceField)
    (device : Device) : Prop :=
  ∃ first, initial.devices.get id = some first ∧ SameField first.device device field

/-- What is kept by every write that meets the guard, whatever is in flight. -/
structure DeltasSound (initial home : HomeService) : Prop where
  fields : ∀ id stored field, home.devices.get id = some stored →
    lastSet (asks id field) (AsFirst initial id field) home.history stored.device
  ordered : ∀ earlier entry later, home.history = earlier ++ entry :: later →
    ∀ other ∈ earlier, Overlap other.2 entry.2 → other.1 ≤ entry.1
  gone : ∀ id, latest (fun entry => entry.2.presence id) home.history = true →
    home.devices.get id = none

/-- A device that is put has been put as the record says. -/
def HomeCall.Sound : HomeCall → Prop
  | .putDevice _ stored (.added device) _ => stored.device = device
  | .putDevice _ _ (.removed _) _ => False
  | .putDevice _ _ (.changed _ _) _ | .getDevice _ _ _ | .getRoom _ _ _ | .listDevices _ _
  | .updateDeviceState _ _ _ _ | .unmapDevice _ _ _ | .deleteDevice _ _ _ | .putRoom _
  | .deleteRoom _ => True

section Steps

variable {initial home next : HomeService}

def AboutField (field : DeviceField) (asked : Device → Prop) : Prop :=
  ∀ device other, SameField device other field → asked device → asked other

theorem aboutField_lastSet (id : DeviceId) (field : DeviceField)
    (history : List (Nat × DeviceRecord)) :
    AboutField field (lastSet (asks id field) (AsFirst initial id field) history) := by
  apply lastSet_induction
  · rintro device other same ⟨first, found, alike⟩
    exact ⟨first, found, alike.trans same⟩
  · intro entry asked found device other same
    simp only [asks, ite_none_right_eq_some, some.injEq] at found
    obtain ⟨_, rfl⟩ := found
    exact fun gives => gives.of_same same

theorem deltasSound_opened (rooms : OrderedSet String)
    (devices : KeyedStore fun stored : StoredDevice => stored.device.id) (drawn : Nat) :
    DeltasSound (.opened rooms devices drawn) (.opened rooms devices drawn) where
  fields id stored field found := ⟨stored, found, SameField.refl _ _⟩
  ordered earlier entry later split := by simp [HomeService.opened] at split
  gone id removed := by simp [HomeService.opened] at removed

section

variable (sound : DeltasSound initial home)

include sound

theorem DeltasSound.of_same
    (devices : next.devices = home.devices) (history : next.history = home.history) :
    DeltasSound initial next := by
  refine ⟨?_, ?_, ?_⟩
  · rw [devices, history]
    exact sound.fields
  · rw [history]
    exact sound.ordered
  · rw [devices, history]
    exact sound.gone

variable {call : Nat}

theorem DeltasSound.ordered_concat {entry : DeviceRecord} (latest : Latest home call entry) :
    ∀ earlier last later, home.history ++ [(call, entry)] = earlier ++ last :: later →
      ∀ other ∈ earlier, Overlap other.2 last.2 → other.1 ≤ last.1 := by
  intro earlier last later split other member overlap
  rcases concat_eq_append_cons.mp split with ⟨rfl, rfl, _⟩ | ⟨before, rfl, same⟩
  · exact latest other member overlap
  · exact sound.ordered earlier last before same other member overlap

theorem DeltasSound.put {entry : DeviceRecord}
    {stored : StoredDevice} (inOrder : Latest home call entry)
    (present : entry.presence stored.device.id = some false ∨
      entry.presence stored.device.id = none ∧ (home.devices.get stored.device.id).isSome)
    (others : ∀ id, id ≠ stored.device.id →
      entry.presence id = none ∧ ∀ field, ¬entry.Sets id field)
    (gives : ∀ field, entry.Gives stored.device field)
    (keeps : ∀ field, ¬entry.Sets stored.device.id field →
      lastSet (asks stored.device.id field) (AsFirst initial stored.device.id field) home.history
        stored.device) :
    DeltasSound initial ((home.putDevice stored).record call entry) := by
  have written : ∀ id, ((home.putDevice stored).record call entry).devices.get id =
      if id = stored.device.id then some stored else home.devices.get id :=
    fun id => KeyedStore.get_put ..
  refine ⟨?_, sound.ordered_concat inOrder, ?_⟩
  · intro id found field stored_at
    rw [written] at stored_at
    simp only [HomeService.record, HomeService.putDevice, lastSet_concat, asks]
    by_cases own : id = stored.device.id
    · subst own
      rw [if_pos rfl, some.injEq] at stored_at
      subst stored_at
      by_cases sets : entry.Sets stored.device.id field
      · simpa [sets] using gives field
      · simpa [sets] using keeps field sets
    · rw [if_neg own] at stored_at
      simpa [(others id own).2 field] using sound.fields id found field stored_at
  · intro id removed
    simp only [HomeService.record, latest_concat] at removed
    rw [written]
    by_cases own : id = stored.device.id
    · subst own
      rcases present with added | ⟨unmarked, present⟩
      · simp [added] at removed
      · rw [unmarked, getD_none] at removed
        rw [sound.gone _ removed] at present
        cases present
    · rw [(others id own).1, getD_none] at removed
      rw [if_neg own]
      exact sound.gone id removed

theorem DeltasSound.changed {id : DeviceId}
    {change : DeviceChange} {current : StoredDevice} (found : home.devices.get id = some current)
    (inOrder : Latest home call (.changed id change)) :
    DeltasSound initial ((home.putDevice ⟨change.apply current.device, current.backendIds⟩).record
      call (.changed id change)) := by
  obtain rfl := home.devices.keyed id current found
  refine sound.put inOrder ?_ ?_ ?_ ?_
  · exact .inr ⟨rfl, by simp [found]⟩
  · intro other differs
    rw [DeviceChange.apply_id] at differs
    exact ⟨rfl, fun field sets => differs sets.1.symm⟩
  · exact fun field => change.gives_apply current.device field
  · intro field unset
    simp only [DeviceChange.apply_id] at unset ⊢
    have absent : field ∉ change.fields := fun member => unset ⟨rfl, member⟩
    exact aboutField_lastSet _ _ _ _ _ (DeviceChange.sameField_apply absent)
      (sound.fields _ current field found)

theorem DeltasSound.added {stored : StoredDevice}
    (inOrder : Latest home call (.added stored.device)) :
    DeltasSound initial ((home.putDevice stored).record call (.added stored.device)) := by
  refine sound.put inOrder (.inl (by simp [DeviceRecord.presence])) ?_ ?_ ?_
  · intro other differs
    exact ⟨by simp [DeviceRecord.presence, Ne.symm differs], fun field sets => differs sets.symm⟩
  · exact fun field => SameField.refl _ _
  · exact fun field unset => absurd rfl unset

theorem DeltasSound.removed (call : Nat) (id : DeviceId) :
    DeltasSound initial
      ({ home with devices := home.devices.remove id }.record call (.removed id)) := by
  refine ⟨?_, sound.ordered_concat ?_, ?_⟩
  · intro other found field stored
    simp only [HomeService.record, KeyedStore.get_remove] at stored ⊢
    split at stored
    · cases stored
    · rw [lastSet_concat]
      exact sound.fields other found field stored
  · intro other member overlap
    cases entry : other.2 <;> simp [entry, Overlap] at overlap
  · intro other removed
    simp only [HomeService.record, latest_concat, KeyedStore.get_remove] at removed ⊢
    by_cases own : other = id
    · rw [if_pos own]
    · have unmarked : DeviceRecord.presence other (.removed id) = none := if_neg (Ne.symm own)
      rw [unmarked, getD_none] at removed
      rw [if_neg own]
      exact sound.gone other removed

end

theorem sound_moveDevices (call : Nat) (roomId : String) (ids : List DeviceId) :
    ∀ other ∈ moveDevices call roomId ids, other.Sound := by
  cases ids <;> simp [moveDevices, HomeCall.Sound]

theorem sound_removeDevices (call : Nat) (ids : List DeviceId) :
    ∀ other ∈ removeDevices call ids, other.Sound := by
  cases ids <;> simp [removeDevices, HomeCall.Sound]

theorem sound_removeRoom (call : Nat) (roomId : String) (ids : List DeviceId) :
    ∀ other ∈ removeRoom call roomId ids, other.Sound := by
  cases ids <;> simp [removeRoom, HomeCall.Sound]

theorem sound_start (home : HomeService) (request : HomeRequest) :
    ∀ call ∈ (home.start request).2, call.Sound := by
  cases request with
  | removeDevices ids => exact sound_removeDevices _ _
  | addRoom _ | removeRoom _ | addDevice _ _ _ | applyState _ _ | updateDevice _ _
  | setDriverOwner _ _ | cloneDevice _ | moveDevices _ _ | removeDevice _
  | setDeviceMetadata _ _ | setCapabilityConfig _ _ _ => simp [HomeService.start, HomeCall.Sound]

theorem sound_afterFound (newId : DeviceId) (call : Nat) (stored : StoredDevice)
    (reader : DeviceReader) :
    ∀ other ∈ HomeService.afterFound newId call stored reader, other.Sound := by
  cases reader with
  | updateDevice patch =>
    simp only [HomeService.afterFound]
    split <;> simp [HomeCall.Sound, StoredDevice.put]
  | setDriverOwner driverId =>
    simp only [HomeService.afterFound]
    split <;> simp [HomeCall.Sound, StoredDevice.put]
  | applyState _ | cloneDevice | moveDevices _ _ | removeDevices _ | removeDevice
  | setDeviceMetadata _ | setCapabilityConfig _ _ | removeRoom _ _ =>
    simp [HomeService.afterFound, HomeCall.Sound, StoredDevice.put]

theorem DeltasSound.resume (sound : DeltasSound initial home) (newId : Nat → DeviceId)
    {call : HomeCall} (own : call.Sound) (current : writesDelta home call) :
    DeltasSound initial (home.resume newId call).1 ∧
      ∀ other ∈ (home.resume newId call).2, other.Sound := by
  cases call with
  | getDevice call id reader =>
    simp only [HomeService.resume]
    split
    · refine ⟨sound, ?_⟩
      cases reader with
      | moveDevices rest roomId => exact sound_moveDevices _ _ _
      | removeDevices rest => exact sound_removeDevices _ _
      | removeRoom rest roomId => exact sound_removeRoom _ _ _
      | applyState _ | updateDevice _ | setDriverOwner _ | cloneDevice | removeDevice
      | setDeviceMetadata _ | setCapabilityConfig _ _ => simp [HomeService.afterMissing]
    · exact ⟨sound.of_same rfl rfl, sound_afterFound _ _ _ _⟩
  | getRoom call roomId reader =>
    refine ⟨sound, ?_⟩
    simp only [HomeService.resume]
    split
    · cases reader with
      | moveDevices ids => exact sound_moveDevices _ _ _
      | updateDevice _ _ | removeRoom =>
        simp [HomeService.afterRoom, HomeCall.Sound, StoredDevice.put]
    · simp
  | listDevices call roomId => exact ⟨sound, sound_removeRoom _ _ _⟩
  | putDevice call stored entry after =>
    have written : DeltasSound initial ((home.putDevice stored).record call entry) := by
      cases entry with
      | added device =>
        obtain rfl : stored.device = device := own
        exact sound.added current
      | changed id change =>
        rcases map_eq_some_iff.mp current.1 with ⟨before, found, rfl⟩
        exact sound.changed found current.2
      | removed id => exact own.elim
    cases after with
    | returns => exact ⟨written.of_same rfl rfl, by simp [HomeService.resume]⟩
    | moveDevices rest roomId => exact ⟨written.of_same rfl rfl, sound_moveDevices _ _ _⟩
    | removeRoom rest roomId => exact ⟨written, sound_removeRoom _ _ _⟩
  | updateDeviceState call id nextState state =>
    simp only [HomeService.resume]
    split
    · exact ⟨sound, by simp⟩
    · rename_i stored found
      rcases current stored found with ⟨rfl, inOrder⟩
      exact ⟨sound.changed found inOrder, by simp⟩
  | unmapDevice call id rest => exact ⟨sound, by simp [HomeService.resume, HomeCall.Sound]⟩
  | deleteDevice call id rest =>
    exact ⟨(sound.removed call id).of_same rfl rfl, sound_removeDevices _ _⟩
  | putRoom roomId | deleteRoom roomId =>
    exact ⟨sound.of_same rfl rfl, by simp [HomeService.resume]⟩

end Steps

theorem deltasSound_step {newId : Nat → DeviceId} {initial : HomeService} : ∀ config label next,
      Program.Holds (DeltasSound initial) (fun _ => HomeCall.Sound) config →
      deltaGuard config label → (homeProgram newId).machine.step config label = some next →
      Program.Holds (DeltasSound initial) (fun _ => HomeCall.Sound) next := by
  refine Program.holds_step_of_keeps
    (fun home call reply => reply = .resolved → writesDelta home call) ?_ ?_ ?_
  · rintro config index _ call found met rfl
    exact met call found
  · intro home request sound
    exact ⟨⟨sound.of_same rfl rfl, fun _ own => own⟩, sound_start home request⟩
  · intro home call reply outcome sound own current resumed
    cases reply with
    | rejected =>
      cases resumed
      exact ⟨⟨sound, fun _ own => own⟩, by simp⟩
    | resolved =>
      cases resumed
      have kept := sound.resume newId own (current rfl)
      exact ⟨⟨kept.1, fun _ own => own⟩, kept.2⟩

theorem DeltasSound.kept {initial : HomeService} {config : Config HomeService HomeCall}
    (sound : DeltasSound initial config.shared) : DeltasKept initial config := by
  refine ⟨?_, ?_, ?_⟩
  · rintro _ id stored field found entry ⟨earlier, later, split, sets, _, before⟩
    have asked := sound.fields id stored field found
    have own : asks id field entry = some fun device => entry.2.Gives device field := by
      simp [asks, sets]
    have none_later : ∀ other ∈ later, asks id field other = none := by
      intro other member
      simp only [asks, ite_eq_right_iff, reduceCtorEq, imp_false]
      intro again
      rcases append_of_mem member with ⟨between, behind, rfl⟩
      have ordered := sound.ordered (earlier ++ entry :: between) other behind (by simp [split])
        entry (by simp) (overlap_of_sets sets again)
      exact absurd (before other member again) (Nat.not_lt.mpr ordered)
    rw [split, lastSet_of_split own none_later] at asked
    exact asked
  · intro _ id stored field found unset
    have asked := sound.fields id stored field found
    rw [lastSet_of_none fun entry member => by simp [asks, unset entry member]] at asked
    exact asked
  · intro earlier call id later split notAdded
    apply sound.gone
    refine latest_iff.mpr ⟨earlier, (call, .removed id), later, split,
      by simp [DeviceRecord.presence], ?_⟩
    intro other member added
    cases entry : other.2 with
    | added device =>
      have differs := notAdded other member device entry
      simp [entry, DeviceRecord.presence, differs] at added
    | changed changedId change | removed removedId =>
      simp [entry, DeviceRecord.presence] at added

def lampHome : HomeService :=
  .opened (OrderedMap.empty.set "kitchen" ())
    (KeyedStore.empty.put ⟨lamp (some "kitchen"), OrderedMap.empty⟩) 0

def switchedOn : CapabilityState := ⟨.onoff, OrderedMap.empty⟩

def dimmed : CapabilityState := ⟨.brightness, OrderedMap.empty⟩

end SupremeOs.Home
