import SupremeOs.MatterBridge.Indexes
import SupremeOs.Support.Pointwise

/-!
# The bridge converges to the home

Whatever happened before, a pass whose calls succeed leaves exactly the listed
devices exposed that have a type, as far as their states can be read; what is
exposed has the number that the registry has recorded.  The registry records
no other device afterwards exactly if every recorded device that is not listed
was exposed before: a pass looks for deleted devices among the exposed ones
only.  The same holds of the buttons of keypads.
-/

namespace SupremeOs.MatterBridge

open Support DomainModel List OrderedMap Option

namespace MatterBridgeDriver

section Passes

variable (types : MatterDeviceTypeRegistry)

def typeOf (device : BridgedDevice) : Option MatterDeviceTypeDefinition :=
  (resolveMatterDeviceType device.capabilities types device.kind).supportedType

def buttonTypeOf (control : KeypadControl) : Option MatterDeviceTypeDefinition :=
  (resolveKeypadControlDeviceType control.kind types).supportedType

structure Converged (devices : List BridgedDevice) (driver : MatterBridgeDriver) : Prop where
  exposed : ∀ key, driver.endpointByDevice.has key = true ↔
    ∃ device ∈ devices, device.id.text = key ∧ (typeOf types device).isSome = true
  recorded : ∀ mapping ∈ driver.store.list, namedControl mapping.controlId = none →
    ∃ device ∈ devices, device.id.text = mapping.deviceId

structure ButtonsConverged (controls : List (Keypad × KeypadControl))
    (driver : MatterBridgeDriver) : Prop where
  exposed : ∀ key, driver.endpointByButton.has key = true ↔
    ∃ entry ∈ controls, buttonKey entry.1 entry.2 = key ∧ (buttonTypeOf types entry.2).isSome = true
  recorded : ∀ mapping ∈ driver.store.list, (namedControl mapping.controlId).isSome = true →
    ∃ entry ∈ controls, buttonKey entry.1 entry.2 = mapping.key

end Passes

/-- The calls to the server and to the file succeed. -/
def ExposeCalls.Succeed (calls : ExposeCalls) : Prop :=
  calls.store = none ∧ calls.addEndpoint = none ∧ calls.updateEndpointName = none

def ItemCalls.Succeed (calls : ItemCalls) : Prop :=
  ExposeCalls.Succeed calls.expose ∧ calls.removeEndpoint = none

def ForgetCalls.Succeed (calls : ForgetCalls) : Prop :=
  calls.removeEndpoint = none ∧ calls.store = none

/-- Whether the type under which a device is or would be recorded has a capability to read. -/
def hasPrimary (types : MatterDeviceTypeRegistry) (record : Option MatterEndpointMapping)
    (deviceType : MatterDeviceTypeDefinition) : Bool :=
  match record with
  | some mapping => (effectiveType types mapping deviceType).primaryCapability.isSome
  | none => deviceType.primaryCapability.isSome

/--
Every recorded device that is not listed is exposed, and of every listed one
that has a type and is not exposed the state can be read.
-/
structure Ready (types : MatterDeviceTypeRegistry) (devices : List (BridgedDevice × ItemCalls))
    (driver : MatterBridgeDriver) : Prop where
  deleted : ∀ mapping ∈ driver.store.list, namedControl mapping.controlId = none →
    (∀ entry ∈ devices, entry.1.id.text ≠ mapping.deviceId) →
    driver.endpointByDevice.has mapping.deviceId = true
  readable : ∀ entry ∈ devices, ∀ deviceType ∈ typeOf types entry.1,
    driver.endpointByDevice.has entry.1.id.text = false →
    hasPrimary types (driver.store.get entry.1.id.text) deviceType = true ∧
      entry.2.expose.getState = none

/-- Every recorded button that is not listed is exposed. -/
def ButtonsReady (controls : List (Keypad × KeypadControl)) (driver : MatterBridgeDriver) : Prop :=
  ∀ mapping ∈ driver.store.list, (namedControl mapping.controlId).isSome = true →
    (∀ entry ∈ controls, buttonKey entry.1 entry.2 ≠ mapping.key) →
    driver.endpointByButton.has mapping.key = true

/-- A pass over different items, with successful calls, converges exactly if it finds them so. -/
def ConvergesIfReady (types : MatterDeviceTypeRegistry) (before : MatterBridgeDriver)
    (label : BridgeLabel) (after : MatterBridgeDriver) : Prop :=
  match label with
  | .reconcile devices forgetting =>
    (devices.map fun entry => entry.1.id).Nodup → (∀ entry ∈ devices, ItemCalls.Succeed entry.2) →
    (∀ key, ForgetCalls.Succeed (forgetting key)) →
    (Converged types (devices.map Prod.fst) after ↔ Ready types devices before)
  | .reconcileKeypads keypads forgetting =>
    ((controlsOf keypads).map fun entry => buttonKey entry.1 entry.2.1).Nodup →
    (∀ entry ∈ controlsOf keypads, ItemCalls.Succeed entry.2.2) →
    (∀ key, ForgetCalls.Succeed (forgetting key)) →
    (ButtonsConverged types ((controlsOf keypads).map fun entry => (entry.1, entry.2.1)) after ↔
      ButtonsReady ((controlsOf keypads).map fun entry => (entry.1, entry.2.1)) before)
  | .start _ | .stop _ | .exposeDevice _ _ | .removeLight _ _ => True

/-- How many numbers a call may give out. -/
def demand : BridgeLabel → Nat
  | .reconcile devices _ => devices.length
  | .reconcileKeypads keypads _ => (controlsOf keypads).length
  | .exposeDevice _ _ => 1
  | .start _ | .stop _ | .removeLight _ _ => 0

/-- The numbers that a call may give out are exact. -/
def HasRoom (driver : MatterBridgeDriver) (label : BridgeLabel) : Prop :=
  demand label < 2 ^ 53 ∧
    ∀ mapping ∈ driver.store.list, mapping.endpointNumber + demand label < 2 ^ 53

instance (driver : MatterBridgeDriver) (label : BridgeLabel) :
    Decidable (HasRoom driver label) := inferInstanceAs (Decidable (_ ∧ _))

variable {driver : MatterBridgeDriver} {left : Nat} {key : String}

structure KeyView where
  exposed : Bool
  record : Option MatterEndpointMapping

def deviceView (driver : MatterBridgeDriver) (key : String) : KeyView :=
  ⟨driver.endpointByDevice.has key, driver.store.get key⟩

def buttonView (driver : MatterBridgeDriver) (key : String) : KeyView :=
  ⟨driver.endpointByButton.has key, driver.store.get key⟩

/-- What exposing an item does to its key and to nothing else. -/
structure Exposes (view : MatterBridgeDriver → String → KeyView) (key : String)
    (typed : Option MatterDeviceTypeDefinition)
    (possible : Option MatterEndpointMapping → MatterDeviceTypeDefinition → Prop) (succeed : Prop)
    (driver : MatterBridgeDriver) (outcome : Outcome MatterDeviceTypeResolution) : Prop where
  sound : ∀ left, Sound (left + 1) driver → Sound left outcome.2
  elsewhere : ∀ other, other ≠ key → view outcome.2 other = view driver other
  unsupported : typed = none → outcome.2 = driver ∧ ∃ resolution, outcome.1 = .ok resolution ∧
      resolution.outcome ≠ .supported
  supported : ∀ deviceType ∈ typed, succeed →
    (∀ resolution, outcome.1 = .ok resolution → resolution.outcome = .supported) ∧
      ((view outcome.2 key).exposed = true ↔
        (view driver key).exposed = true ∨ possible (view driver key).record deviceType)

/-- What a turn makes of the key of its item. -/
structure Treated (typed : Option MatterDeviceTypeDefinition)
    (possible : Option MatterEndpointMapping → MatterDeviceTypeDefinition → Prop)
    (before after : KeyView) : Prop where
  unsupported : typed = none → after.exposed = false ∧ after.record = before.record
  supported : ∀ deviceType ∈ typed,
    (after.exposed = true ↔ before.exposed = true ∨ possible before.record deviceType)

section Item

variable {view : MatterBridgeDriver → String → KeyView} {typed : Option MatterDeviceTypeDefinition}
variable {possible : Option MatterEndpointMapping → MatterDeviceTypeDefinition → Prop}
variable {succeed : Prop} {outcome : Outcome MatterDeviceTypeResolution} {Item : Type}
variable {item : Item} {wasExposed : Bool} {remove : MatterBridgeDriver → Outcome Unit}
variable {result : ReconcileResult Item}

/-- Taking an item away ends its exposure and keeps its record. -/
def TakesAway (view : MatterBridgeDriver → String → KeyView) (key : String)
    (remove : MatterBridgeDriver → Outcome Unit) : Prop :=
  ∀ driver query, view (remove driver).2 query =
    if query = key then ⟨false, (view driver key).record⟩ else view driver query

theorem Sound.reconcileItem (sound : Sound left outcome.2)
    (removes : ∀ exposed, Sound left exposed → Sound left (remove exposed).2) :
    Sound left (reconcileItem item wasExposed remove result outcome).2 := by
  unfold MatterBridgeDriver.reconcileItem
  split
  · exact sound
  · split
    · exact removes _ sound
    · exact sound

theorem treated_reconcileItem (item : Item) (result : ReconcileResult Item)
    (exposes : Exposes view key typed possible succeed driver outcome)
    (succeeds : succeed) (removes : TakesAway view key remove) :
    (∀ other, other ≠ key →
      view (reconcileItem item (view driver key).exposed remove result outcome).2 other =
        view driver other) ∧ Treated typed possible (view driver key)
      (view (reconcileItem item (view driver key).exposed remove result outcome).2 key) := by
  rcases outcome with ⟨answer, exposed⟩
  cases resolved : typed with
  | none =>
    rcases exposes.unsupported resolved with ⟨same, resolution, ok, unsupported⟩
    subst same ok
    rw [reconcileItem]
    split
    · refine ⟨fun other differs => (removes exposed other).trans (if_neg differs), fun _ => ?_,
        fun deviceType some => ?_⟩
      · dsimp only
        rw [removes, if_pos rfl]
        exact ⟨rfl, rfl⟩
      · cases some
    · rename_i hidden
      refine ⟨fun _ _ => rfl, fun _ => ⟨?_, rfl⟩, fun deviceType some => ?_⟩
      · simpa [unsupported] using hidden
      · cases some
  | some deviceType =>
    rcases exposes.supported deviceType resolved succeeds with ⟨supported, shown⟩
    have unchanged : (reconcileItem item (view driver key).exposed remove result
        (answer, exposed)).2 = exposed := by
      cases answer with
      | error message => rfl
      | ok resolution =>
        rw [reconcileItem, supported resolution rfl]
        rfl
    rw [unchanged]
    refine ⟨exposes.elsewhere, fun none => ?_, fun other isOther => ?_⟩
    · cases none
    · cases isOther
      exact shown

end Item

theorem has_set_self {Value : Type} (index : OrderedMap String Value) (key : String)
    (value : Value) : (index.set key value).has key = true := by
  simp [OrderedMap.has]

theorem has_set_other {Value : Type} (index : OrderedMap String Value) {key query : String}
    (value : Value) (other : query ≠ key) : (index.set key value).has query = index.has query := by
  simp [OrderedMap.has, other]

section Devices

variable {types : MatterDeviceTypeRegistry} {device : BridgedDevice}

/-- What it takes to expose a device that was not exposed. -/
def Able (types : MatterDeviceTypeRegistry) (getState : Option String)
    (record : Option MatterEndpointMapping) (deviceType : MatterDeviceTypeDefinition) : Prop :=
  hasPrimary types record deviceType = true ∧ getState = none

theorem hasPrimary_of_resolves {deviceType : MatterDeviceTypeDefinition}
    {after : MatterEndpointStore} {mapping : MatterEndpointMapping}
    (typed : types.get deviceType.id = some deviceType)
    (resolves : Resolves driver.store device.id none deviceType.id after mapping) :
    hasPrimary types (deviceView driver device.id.text).record deviceType =
      (effectiveType types mapping deviceType).primaryCapability.isSome := by
  show hasPrimary types (driver.store.get device.id.text) deviceType = _
  cases was : driver.store.get device.id.text with
  | some older =>
    have kept := resolves.kept older was
    rw [hasPrimary, effectiveType, effectiveType, kept.2.1]
  | none =>
    have fresh := resolves.fresh was
    rw [hasPrimary, effectiveType, fresh.2.1, typed]
    rfl

theorem exposes_exposeDevice (calls : ExposeCalls) :
    Exposes deviceView device.id.text (typeOf types device) (Able types calls.getState)
      (ExposeCalls.Succeed calls) driver (driver.exposeDevice types device calls) := by
  have typed := @fromRegistry_resolveMatterDeviceType types device.capabilities device.kind
  have supports := @hasType_resolveMatterDeviceType types device.capabilities device.kind
  rw [exposeDevice]
  dsimp only
  split
  · rename_i none
    refine ⟨fun left sound => sound.fewer, fun _ _ => rfl,
      fun _ => ⟨rfl, _, rfl, supports.outcome_ne none⟩, fun deviceType some => ?_⟩
    rw [typeOf, none] at some
    cases some
  · rename_i deviceType resolved
    rcases @resolved_cases driver device.id none deviceType.id device.name
      (device.capabilities.map fun capability => capability.kind.literal) calls.store with
      ⟨after, mapping, resolves, ended⟩
    have recorded (key : String) (other : key ≠ device.id.text) :
        deviceView { driver with store := after } key = deviceView driver key :=
      congrArg (KeyView.mk _) (resolves.elsewhere key other)
    have unsupported : typeOf types device ≠ none := by
      rw [typeOf, resolved]
      exact some_ne_none _
    have written : after.get device.id.text = some mapping := resolves.here
    rcases ended with accepted | ⟨message, rejected, thrown⟩
    · rw [accepted]
      dsimp only
      have primary := hasPrimary_of_resolves (typed deviceType resolved) resolves
      split
      · rename_i noPrimary
        refine ⟨fun left sound => sound.resolves resolves, recorded,
          fun none => absurd none unsupported, fun other isOther succeed => ⟨?_, ?_⟩⟩
        · intro _ ok
          cases ok
        · cases resolved.symm.trans isOther
          rw [Able, primary]
          constructor
          · exact .inl
          · rintro (shown | ⟨possible, -⟩)
            · exact shown
            · rw [isNone_iff_eq_none] at noPrimary
              rw [noPrimary] at possible
              cases possible
      · rename_i isPrimary
        split
        · rename_i message failed
          refine ⟨fun left sound => sound.resolves resolves, recorded,
            fun none => absurd none unsupported, fun other isOther succeed => ⟨?_, ?_⟩⟩
          · intro _ ok
            cases ok
          · constructor
            · exact .inl
            · rintro (shown | ⟨-, read⟩)
              · exact shown
              · rw [read, succeed.2.1, succeed.2.2] at failed
                cases failed
        · rename_i allSucceed
          have device_record (left : Nat) (sound : Sound (left + 1) driver) :
              namedControl mapping.controlId = none := by
            have controls := ((sound.resolves resolves).owner_of_get resolves.here).2
            exact controls
          refine ⟨fun left sound =>
              (sound.resolves resolves).trackDevice written (device_record left sound),
            fun key other => ?_, fun none => absurd none unsupported,
            fun other isOther succeed => ⟨?_, ?_⟩⟩
          · rw [← recorded key other]
            exact congrArg (KeyView.mk · _) (has_set_other _ _ other)
          · intro _ ok
            cases ok
            rfl
          · cases resolved.symm.trans isOther
            refine iff_of_true ?_ (.inr ⟨?_, ?_⟩)
            · exact has_set_self _ _ _
            · rw [primary]
              simpa [isSome_iff_ne_none] using isPrimary
            · cases read : calls.getState with
              | none => rfl
              | some message =>
                rw [read] at allSucceed
                cases allSucceed
    · rw [thrown]
      refine ⟨fun left sound => sound.resolves resolves, recorded,
        fun none => absurd none unsupported, fun other isOther succeed => ?_⟩
      rw [succeed.1] at rejected
      cases rejected

variable {rejected : Option String} {calls : ForgetCalls} {after : MatterBridgeDriver}

theorem removeLight_of_ok (ok : driver.removeLight key rejected = (.ok (), after)) :
    (∀ query, after.endpointByDevice.get query =
        if query = key then none else driver.endpointByDevice.get query) ∧
      after.endpointByButton = driver.endpointByButton ∧ after.store = driver.store := by
  unfold MatterBridgeDriver.removeLight at ok
  split at ok
  · rename_i hidden
    obtain rfl := congrArg Prod.snd ok
    refine ⟨fun query => ?_, rfl, rfl⟩
    split
    · rename_i same
      rw [same]
      exact hidden
    · rfl
  · cases ok
  · obtain rfl := congrArg Prod.snd ok
    exact ⟨OrderedMap.get_delete _ _, rfl, rfl⟩

theorem removeLight_succeeds : ∃ after, driver.removeLight key none = (.ok (), after) := by
  unfold MatterBridgeDriver.removeLight
  split
  · exact ⟨_, rfl⟩
  · rename_i thrown
    cases thrown
  · exact ⟨_, rfl⟩

theorem deviceView_removeLight
    (ok : driver.removeLight key rejected = (.ok (), after)) (query : String) :
    deviceView after query =
      if query = key then ⟨false, driver.store.get key⟩ else deviceView driver query := by
  rcases removeLight_of_ok ok with ⟨devices, -, store⟩
  rw [deviceView, OrderedMap.has, devices, store]
  by_cases same : query = key <;> simp [same, deviceView, OrderedMap.has]

theorem Sound.forgetDevice (sound : Sound left driver)
    (noButton : driver.endpointByButton.get key = none) :
    Sound left (driver.forgetDevice key calls).2 := by
  have removed := @Sound.removeLight driver left key sound calls.removeEndpoint
  rw [MatterBridgeDriver.forgetDevice]
  split
  · rename_i left' computed
    rw [computed] at removed
    exact removed
  · rename_i after computed
    rw [computed] at removed
    rcases removeLight_of_ok computed with ⟨devices, buttons, -⟩
    have hidden : after.endpointByDevice.get key = none ∧
        after.endpointByButton.get key = none := by
      rw [devices, if_pos rfl, buttons]
      exact ⟨rfl, noButton⟩
    unfold removeRecord
    split
    · exact removed.remove hidden
    · exact removed.remove hidden

theorem endpointByButton_forgetDevice :
    (driver.forgetDevice key calls).2.endpointByButton = driver.endpointByButton := by
  have removed : (driver.removeLight key calls.removeEndpoint).2.endpointByButton =
      driver.endpointByButton := by
    unfold MatterBridgeDriver.removeLight
    split <;> rfl
  rw [MatterBridgeDriver.forgetDevice]
  split
  · rename_i computed
    rw [computed] at removed
    exact removed
  · rename_i after computed
    rw [computed] at removed
    unfold removeRecord
    split <;> exact removed

theorem deviceView_forgetDevice (succeed : ForgetCalls.Succeed calls) (query : String) :
    deviceView (driver.forgetDevice key calls).2 query =
      if query = key then ⟨false, none⟩ else deviceView driver query := by
  rcases @removeLight_succeeds driver key with ⟨after, ok⟩
  have view := deviceView_removeLight ok query
  rw [MatterBridgeDriver.forgetDevice, succeed.1, ok]
  rw [succeed.2]
  have store : (after.store.remove key).get query =
      if query = key then none else after.store.get query := get_remove key query
  by_cases same : query = key
  · rw [if_pos same] at view store ⊢
    exact congr (congrArg KeyView.mk (congrArg KeyView.exposed view)) store
  · rw [if_neg same] at view store ⊢
    rw [← view]
    exact congrArg (KeyView.mk _) store

/-! ### A pass over the devices -/

/-- What a pass makes of a key that is not listed. -/
structure PassedBy (before after : KeyView) : Prop where
  shown : before.exposed = true → after = ⟨false, none⟩
  hidden : ¬before.exposed = true → after = before

/--
A pass that exposes what is listed and typed where that is possible, and takes
away what is exposed and not listed: it leaves exactly what is listed exposed,
and of a kind nothing else recorded, if and only if all that is recorded and
not listed was exposed, and all that is listed and was not exposed could be.
-/
theorem converges_iff {Item : Type} (keyOf : Item → String) (typed possible : Item → Prop)
    (kind : MatterEndpointMapping → Prop) (items : List Item) {before after : String → KeyView}
    (listed : ∀ item ∈ items, (¬typed item → (after (keyOf item)).exposed = false ∧
        (after (keyOf item)).record = (before (keyOf item)).record) ∧
      (typed item → ((after (keyOf item)).exposed = true ↔
        (before (keyOf item)).exposed = true ∨ possible item)))
    (unlisted : ∀ key, key ∉ items.map keyOf → PassedBy (before key) (after key)) :
    ((∀ key, (after key).exposed = true ↔ ∃ item ∈ items, keyOf item = key ∧ typed item) ∧
      ∀ key mapping, (after key).record = some mapping → kind mapping → key ∈ items.map keyOf) ↔
    ((∀ key mapping, (before key).record = some mapping → kind mapping →
        key ∉ items.map keyOf → (before key).exposed = true) ∧
      ∀ item ∈ items, typed item → (before (keyOf item)).exposed = false → possible item) := by
  constructor
  · rintro ⟨exposed, recorded⟩
    refine ⟨fun key mapping record ofKind outside => ?_, fun item member isTyped hidden => ?_⟩
    · by_contra hidden
      have same := (unlisted key outside).hidden hidden
      exact outside (recorded key mapping (same ▸ record) ofKind)
    · have shown := (exposed (keyOf item)).mpr ⟨item, member, rfl, isTyped⟩
      refine (((listed item member).2 isTyped).mp shown).resolve_left fun was => ?_
      exact Bool.noConfusion (hidden.symm.trans was)
  · rintro ⟨deleted, able⟩
    refine ⟨fun key => ⟨fun shown => ?_, ?_⟩, fun key mapping record ofKind => ?_⟩
    · by_cases inside : key ∈ items.map keyOf
      · rcases mem_map.mp inside with ⟨item, member, rfl⟩
        refine ⟨item, member, rfl, ?_⟩
        by_contra untyped
        exact Bool.noConfusion (((listed item member).1 untyped).1.symm.trans shown)
      · have passed := unlisted key inside
        by_cases was : (before key).exposed = true
        · rw [passed.shown was] at shown
          cases shown
        · rw [passed.hidden was] at shown
          exact absurd shown was
    · rintro ⟨item, member, rfl, isTyped⟩
      refine ((listed item member).2 isTyped).mpr ?_
      by_cases was : (before (keyOf item)).exposed = true
      · exact .inl was
      · exact .inr (able item member isTyped (Bool.eq_false_iff.mpr was))
    · by_contra outside
      have passed := unlisted key outside
      by_cases was : (before key).exposed = true
      · rw [passed.shown was] at record
        cases record
      · rw [passed.hidden was] at record
        exact was (deleted key mapping record ofKind outside)

variable {turn : ReconcileResult String × MatterBridgeDriver} {entry : BridgedDevice × ItemCalls}

theorem takesAway_removeLight : TakesAway deviceView key (removeLight key none) := by
  intro driver query
  rcases @removeLight_succeeds driver key with ⟨after, gone⟩
  rw [gone]
  exact deviceView_removeLight gone query

theorem Sound.reconcileDevice (sound : Sound (left + 1) turn.2) :
    Sound left (reconcileDevice types turn entry).2 :=
  ((exposes_exposeDevice entry.2.expose).sound left sound).reconcileItem
    fun _ exposed => exposed.removeLight

theorem treats_reconcileDevice (succeed : ItemCalls.Succeed entry.2) :
    TreatsPlace (fun turn => deviceView turn.2) (fun entry => entry.1.id.text)
      (fun entry => Treated (typeOf types entry.1) (Able types entry.2.expose.getState)) entry turn
      (reconcileDevice types turn entry) := by
  have exposes := @exposes_exposeDevice turn.2 types entry.1 entry.2.expose
  have removes : TakesAway deviceView entry.1.id.text
      (removeLight entry.1.id.text entry.2.removeEndpoint) := by
    rw [succeed.2]
    exact takesAway_removeLight
  have treated := treated_reconcileItem entry.1.id.text turn.1 exposes succeed.1 removes
  exact ⟨treated.1, treated.2⟩

theorem foldl_sound {Result Item : Type} {step : Result × MatterBridgeDriver → Item →
      Result × MatterBridgeDriver}
    (turn : ∀ left state item, Sound (left + 1) state.2 → Sound left (step state item).2)
    (items : List Item) (state : Result × MatterBridgeDriver)
    (sound : Sound (items.length + left) state.2) : Sound left (items.foldl step state).2 := by
  induction items generalizing state with
  | nil =>
    rw [length_nil, Nat.zero_add] at sound
    exact sound
  | cons first rest ih =>
    rw [length_cons, Nat.add_right_comm] at sound
    exact ih (step state first) (turn _ state first sound)

theorem foldl_forgetUnlisted_sound {forgetting : String → ForgetCalls} (keys : List String)
    (turn : ReconcileResult String × MatterBridgeDriver) (sound : Sound left turn.2)
    (noButtons : ∀ key ∈ keys, turn.2.endpointByButton.get key = none) :
    Sound left (keys.foldl (forgetUnlisted forgetting) turn).2 := by
  induction keys generalizing turn with
  | nil => exact sound
  | cons first rest ih =>
    refine ih _ (sound.forgetDevice (noButtons first (.head _))) fun key member => ?_
    have same : (forgetUnlisted forgetting turn first).2.endpointByButton =
        turn.2.endpointByButton := endpointByButton_forgetDevice
    rw [same]
    exact noButtons key (.tail _ member)

variable {devices : List (BridgedDevice × ItemCalls)} {forgetting : String → ForgetCalls}

theorem Sound.reconcile (sound : Sound devices.length driver) :
    Sound 0 (driver.reconcile types devices forgetting).2 := by
  have exposed : Sound 0 (devices.foldl (MatterBridgeDriver.reconcileDevice types)
      (noResult, driver)).2 :=
    foldl_sound (fun _ _ _ => Sound.reconcileDevice) devices (noResult, driver) sound
  refine foldl_forgetUnlisted_sound _ _ exposed fun key member => ?_
  have shown := mem_keys_iff.mp (mem_filter.mp member).1
  exact get_none_of_has fun button => exposed.not_both shown button

theorem deviceView_reconcile (apart : (devices.map fun entry => entry.1.id).Nodup)
    (succeed : ∀ entry ∈ devices, ItemCalls.Succeed entry.2)
    (forgets : ∀ key, ForgetCalls.Succeed (forgetting key)) :
    (∀ entry ∈ devices, Treated (typeOf types entry.1) (Able types entry.2.expose.getState)
        (deviceView driver entry.1.id.text)
        (deviceView (driver.reconcile types devices forgetting).2 entry.1.id.text)) ∧
      ∀ key, key ∉ (devices.map fun entry => entry.1.id.text) → PassedBy (deviceView driver key)
          (deviceView (driver.reconcile types devices forgetting).2 key) := by
  have places : (devices.map fun entry => entry.1.id.text).Nodup := by
    have texts := apart.map fun _ _ => SupremeId.ext
    rw [List.map_map] at texts
    exact texts
  have exposes : TreatsPlaces (fun turn => deviceView turn.2) (fun entry => entry.1.id.text)
      (fun entry => Treated (typeOf types entry.1) (Able types entry.2.expose.getState)) devices
      (noResult, driver) (devices.foldl (reconcileDevice types) (noResult, driver)) := by
    refine foldl_treatsPlaces _ _ _ (fun left _ => ∀ entry ∈ left, ItemCalls.Succeed entry.2)
      (fun entry rest turn holds => ⟨?_, ?_⟩) places succeed
    · exact fun other member => holds other (.tail _ member)
    · exact treats_reconcileDevice (holds entry (.head _))
  let exposed := devices.foldl (reconcileDevice types) (noResult, driver)
  let unlisted := exposed.2.endpointByDevice.keys.filter fun id =>
    decide (id ∉ devices.map fun entry => entry.1.id.text)
  have forgotten : TreatsPlaces (fun turn => deviceView turn.2) id
      (fun _ _ now => now = ⟨false, none⟩) unlisted exposed
      (unlisted.foldl (forgetUnlisted forgetting) exposed) := by
    refine foldl_treatsPlaces _ _ _ (fun _ _ => True) (fun key _ turn _ => ⟨trivial, ?_, ?_⟩)
      ?_ trivial
    · exact fun query other => (deviceView_forgetDevice (forgets key) query).trans (if_neg other)
    · exact (deviceView_forgetDevice (forgets key) key).trans (if_pos rfl)
    · rw [List.map_id]
      exact exposed.2.endpointByDevice.nodup.sublist filter_sublist
  have picked (key : String) : key ∈ unlisted.map id ↔ (deviceView exposed.2 key).exposed = true ∧
        key ∉ devices.map fun entry => entry.1.id.text := by
    rw [List.map_id, mem_filter, mem_keys_iff, decide_eq_true_iff]
    rfl
  rcases @TreatsPlaces.thenClears _ _ _ _ _ _ _ _ _ _ (fun view => view.exposed = true) _ _ _ _ _
    exposes forgotten picked with ⟨listed, others⟩
  exact ⟨listed, fun key outside => ⟨(others key outside).1, (others key outside).2⟩⟩

theorem converged_iff : Converged types (devices.map Prod.fst) driver ↔
    (∀ key, (deviceView driver key).exposed = true ↔
      ∃ entry ∈ devices, entry.1.id.text = key ∧ (typeOf types entry.1).isSome = true) ∧
    ∀ key mapping, (deviceView driver key).record = some mapping →
      namedControl mapping.controlId = none → key ∈ devices.map fun entry => entry.1.id.text := by
  constructor
  · rintro ⟨exposed, recorded⟩
    refine ⟨fun key => (exposed key).trans ?_, fun key mapping found device => ?_⟩
    · simp
    · rcases recorded mapping (mem_list_of_get found) device with ⟨listed, member, same⟩
      rw [← MatterEndpointStore.key_of_get found, key_of_device device, ← same]
      rcases mem_map.mp member with ⟨entry, inside, rfl⟩
      exact mem_map_of_mem inside
  · rintro ⟨exposed, recorded⟩
    refine ⟨fun key => (exposed key).trans ?_, fun mapping member device => ?_⟩
    · simp
    · have inside := recorded mapping.key mapping (mem_list_iff.mp member) device
      rcases mem_map.mp inside with ⟨entry, listed, same⟩
      exact ⟨entry.1, mem_map_of_mem listed, same.trans (key_of_device device)⟩

theorem converged_iff_ready (apart : (devices.map fun entry => entry.1.id).Nodup)
    (succeed : ∀ entry ∈ devices, ItemCalls.Succeed entry.2)
    (forgets : ∀ key, ForgetCalls.Succeed (forgetting key)) :
    Converged types (devices.map Prod.fst) (driver.reconcile types devices forgetting).2 ↔
      Ready types devices driver := by
  rcases @deviceView_reconcile driver types devices forgetting apart succeed forgets with
    ⟨listed, unlisted⟩
  have converges := converges_iff (fun entry : BridgedDevice × ItemCalls => entry.1.id.text)
    (fun entry => (typeOf types entry.1).isSome = true) (fun entry =>
      ∀ deviceType ∈ typeOf types entry.1,
        hasPrimary types (driver.store.get entry.1.id.text) deviceType = true ∧
          entry.2.expose.getState = none)
    (fun mapping => namedControl mapping.controlId = none) devices
    (fun entry member => ⟨fun untyped => ?_, fun isTyped => ?_⟩) unlisted
  · rw [converged_iff, converges]
    constructor
    · rintro ⟨deleted, readable⟩
      refine ⟨fun mapping member device outside => ?_, fun entry member deviceType typed hidden =>
        readable entry member (isSome_iff_exists.mpr ⟨deviceType, typed⟩) hidden deviceType
          typed⟩
      refine deleted mapping.deviceId mapping ?_ device fun inside => ?_
      · rw [← key_of_device device]
        exact mem_list_iff.mp member
      · rcases mem_map.mp inside with ⟨entry, listed, same⟩
        exact outside entry listed same
    · intro ready
      refine ⟨fun key mapping found device outside => ?_, fun entry member _ hidden deviceType
        typed => ready.readable entry member deviceType typed hidden⟩
      have key_eq := (MatterEndpointStore.key_of_get found).symm.trans (key_of_device device)
      rw [key_eq] at outside ⊢
      refine ready.deleted mapping (mem_list_of_get found) device fun entry listed same => ?_
      exact outside (mem_map.mpr ⟨entry, listed, same⟩)
  · exact (listed entry member).unsupported (by simpa using untyped)
  · rcases isSome_iff_exists.mp isTyped with ⟨deviceType, typed⟩
    have treated := (listed entry member).supported deviceType typed
    rw [treated]
    refine or_congr_right ⟨fun able other same => ?_, fun able => able deviceType typed⟩
    cases typed.symm.trans same
    exact able

end Devices

section Buttons

variable {types : MatterDeviceTypeRegistry} {keypad : Keypad} {control : KeypadControl}
variable {keypadId controlId : String} {rejected : Option String} {calls : ForgetCalls}

theorem namedControl_id : namedControl (some control.id) = some control.id :=
  filter_eq_some_iff.mpr ⟨rfl, decide_eq_true control.named⟩

theorem exposes_exposeKeypadButton (calls : ExposeCalls) :
    Exposes buttonView (buttonKey keypad control) (buttonTypeOf types control) (fun _ _ => True)
      (ExposeCalls.Succeed calls) driver
      (driver.exposeKeypadButton types keypad control calls) := by
  have supports := @hasType_resolveKeypadControlDeviceType types control.kind
  rw [exposeKeypadButton]
  dsimp only
  split
  · rename_i none
    refine ⟨fun left sound => sound.fewer, fun _ _ => rfl,
      fun _ => ⟨rfl, _, rfl, supports.outcome_ne none⟩, fun deviceType some => ?_⟩
    rw [buttonTypeOf, none] at some
    cases some
  · rename_i deviceType resolved
    rcases @resolved_cases driver keypad.id (some control.id) deviceType.id
      (control.label.getD (keypad.name ++ " — " ++ control.id)) [] calls.store with
      ⟨after, mapping, resolves, ended⟩
    have recorded (key : String) (other : key ≠ buttonKey keypad control) :
        buttonView { driver with store := after } key = buttonView driver key :=
      congrArg (KeyView.mk _) (resolves.elsewhere key other)
    have unsupported : buttonTypeOf types control ≠ none := by
      rw [buttonTypeOf, resolved]
      exact some_ne_none _
    rcases ended with accepted | ⟨message, rejected, thrown⟩
    · rw [accepted]
      dsimp only
      split
      · rename_i message failed
        refine ⟨fun left sound => sound.resolves resolves, recorded,
          fun none => absurd none unsupported, fun _ _ succeed => ?_⟩
        rw [succeed.2.1, succeed.2.2] at failed
        cases failed
      · have button_record (left : Nat) (sound : Sound (left + 1) driver) :
            (namedControl mapping.controlId).isSome = true := by
          rw [((sound.resolves resolves).owner_of_get resolves.here).2, namedControl_id]
          rfl
        refine ⟨fun left sound => (sound.resolves resolves).trackButton resolves.here
            (button_record left sound), fun key other => ?_,
          fun none => absurd none unsupported, fun _ _ _ => ⟨?_, ?_⟩⟩
        · rw [← recorded key other]
          exact congrArg (KeyView.mk · _) (has_set_other _ _ other)
        · intro _ ok
          cases ok
          rfl
        · exact iff_of_true (has_set_self _ _ _) (.inr trivial)
    · rw [thrown]
      refine ⟨fun left sound => sound.resolves resolves, recorded,
        fun none => absurd none unsupported, fun _ _ succeed => ?_⟩
      rw [succeed.1] at rejected
      cases rejected

theorem removeKeypadButton_of_ok {after : MatterBridgeDriver}
    (ok : driver.removeKeypadButton keypadId controlId rejected = (.ok (), after)) :
    (∀ query, after.endpointByButton.get query =
        if query = matterEndpointKey keypadId (some controlId) then none
        else driver.endpointByButton.get query) ∧
      after.endpointByDevice = driver.endpointByDevice ∧ after.store = driver.store := by
  unfold MatterBridgeDriver.removeKeypadButton at ok
  dsimp only at ok
  split at ok
  · rename_i hidden
    obtain rfl := congrArg Prod.snd ok
    refine ⟨fun query => ?_, rfl, rfl⟩
    split
    · rename_i same
      rw [same]
      exact hidden
    · rfl
  · cases ok
  · obtain rfl := congrArg Prod.snd ok
    exact ⟨OrderedMap.get_delete _ _, rfl, rfl⟩

theorem removeKeypadButton_succeeds :
    ∃ after, driver.removeKeypadButton keypadId controlId none = (.ok (), after) := by
  unfold MatterBridgeDriver.removeKeypadButton
  dsimp only
  split
  · exact ⟨_, rfl⟩
  · rename_i thrown
    cases thrown
  · exact ⟨_, rfl⟩

theorem takesAway_removeKeypadButton : TakesAway buttonView
    (matterEndpointKey keypadId (some controlId)) (removeKeypadButton keypadId controlId none) := by
  intro driver query
  rcases @removeKeypadButton_succeeds driver keypadId controlId with ⟨after, gone⟩
  rw [gone]
  rcases removeKeypadButton_of_ok gone with ⟨buttons, -, store⟩
  rw [buttonView, OrderedMap.has, buttons, store]
  by_cases same : query = matterEndpointKey keypadId (some controlId) <;>
    simp [same, buttonView, OrderedMap.has]

theorem Sound.forgetKeypadButton (sound : Sound left driver)
    (noDevice : driver.endpointByDevice.get (matterEndpointKey keypadId (some controlId)) = none) :
    Sound left (driver.forgetKeypadButton keypadId controlId calls).2 := by
  have removed := @Sound.removeKeypadButton driver left sound keypadId controlId
    calls.removeEndpoint
  rw [MatterBridgeDriver.forgetKeypadButton]
  split
  · rename_i computed
    rw [computed] at removed
    exact removed
  · rename_i after computed
    rw [computed] at removed
    rcases removeKeypadButton_of_ok computed with ⟨buttons, devices, -⟩
    have hidden : after.endpointByDevice.get (matterEndpointKey keypadId (some controlId)) = none ∧
        after.endpointByButton.get (matterEndpointKey keypadId (some controlId)) = none := by
      rw [buttons, if_pos rfl, devices]
      exact ⟨noDevice, rfl⟩
    unfold removeRecord
    split
    · exact removed.remove hidden
    · exact removed.remove hidden

theorem forgetKeypadButton_elsewhere (other : key ≠ matterEndpointKey keypadId (some controlId)) :
    (driver.forgetKeypadButton keypadId controlId calls).2.endpointByButton.get key =
      driver.endpointByButton.get key := by
  have removed : (driver.removeKeypadButton keypadId controlId
      calls.removeEndpoint).2.endpointByButton.get key = driver.endpointByButton.get key := by
    unfold MatterBridgeDriver.removeKeypadButton
    dsimp only
    split
    · rfl
    · rfl
    · exact (OrderedMap.get_delete _ _ _).trans (if_neg other)
  rw [MatterBridgeDriver.forgetKeypadButton]
  split
  · rename_i computed
    rw [computed] at removed
    exact removed
  · rename_i computed
    rw [computed] at removed
    unfold removeRecord
    split <;> exact removed

theorem buttonView_forgetKeypadButton (succeed : ForgetCalls.Succeed calls) (query : String) :
    buttonView (driver.forgetKeypadButton keypadId controlId calls).2 query =
      if query = matterEndpointKey keypadId (some controlId) then ⟨false, none⟩
      else buttonView driver query := by
  have view := @takesAway_removeKeypadButton keypadId controlId driver query
  rcases @removeKeypadButton_succeeds driver keypadId controlId with ⟨after, ok⟩
  rw [ok] at view
  rw [MatterBridgeDriver.forgetKeypadButton, succeed.1, ok, succeed.2]
  have store : (after.store.remove (matterEndpointKey keypadId (some controlId))).get query =
      if query = matterEndpointKey keypadId (some controlId) then none
      else after.store.get query := get_remove _ query
  by_cases same : query = matterEndpointKey keypadId (some controlId)
  · rw [if_pos same] at view store ⊢
    exact congr (congrArg KeyView.mk (congrArg KeyView.exposed view)) store
  · rw [if_neg same] at view store ⊢
    rw [← view]
    exact congrArg (KeyView.mk _) store

variable {turn : ReconcileResult ButtonIdentity × MatterBridgeDriver}
variable {entry : Keypad × KeypadControl × ItemCalls}

theorem Sound.reconcileButton (sound : Sound (left + 1) turn.2) :
    Sound left (reconcileButton types turn entry).2 :=
  ((exposes_exposeKeypadButton entry.2.2.expose).sound left sound).reconcileItem
    fun _ exposed => exposed.removeKeypadButton

theorem treats_reconcileButton (succeed : ItemCalls.Succeed entry.2.2) :
    TreatsPlace (fun turn => buttonView turn.2) (fun entry => buttonKey entry.1 entry.2.1)
      (fun entry => Treated (buttonTypeOf types entry.2.1) fun _ _ => True) entry turn
      (reconcileButton types turn entry) := by
  have exposes := @exposes_exposeKeypadButton turn.2 types entry.1 entry.2.1 entry.2.2.expose
  have removes : TakesAway buttonView (buttonKey entry.1 entry.2.1)
      (removeKeypadButton entry.1.id.text entry.2.1.id entry.2.2.removeEndpoint) := by
    rw [succeed.2]
    exact takesAway_removeKeypadButton
  have treated := treated_reconcileItem (⟨entry.1.id.text, entry.2.1.id⟩ : ButtonIdentity) turn.1
    exposes succeed.1 removes
  exact ⟨treated.1, treated.2⟩

structure LeftToForget (left : Nat) (entries : List (String × Nat))
    (turn : ReconcileResult ButtonIdentity × MatterBridgeDriver) : Prop where
  sound : Sound left turn.2
  apart : (entries.map Prod.fst).Nodup
  shown : ∀ entry ∈ entries, turn.2.endpointByButton.get entry.1 = some entry.2

variable {forgetting : String → ForgetCalls} {shownEntry : String × Nat}
variable {rest : List (String × Nat)}

theorem LeftToForget.forgets (holds : LeftToForget left (shownEntry :: rest) turn) :
    ∃ identity : ButtonIdentity, identity.key = shownEntry.1 ∧
      (forgetUnlistedButton forgetting turn shownEntry).2 =
        (turn.2.forgetKeypadButton identity.keypadId identity.controlId
          (forgetting shownEntry.1)).2 := by
  have shown := holds.shown shownEntry (.head _)
  rcases (holds.sound.indexes.buttons _ _).mp shown with ⟨identity, stands, named⟩
  refine ⟨identity, named, ?_⟩
  rw [forgetUnlistedButton, stands]

theorem LeftToForget.next (holds : LeftToForget left (shownEntry :: rest) turn) :
    LeftToForget left rest (forgetUnlistedButton forgetting turn shownEntry) := by
  rcases @LeftToForget.forgets left turn forgetting shownEntry rest holds with
    ⟨identity, named, forgotten⟩
  have shown := holds.shown shownEntry (.head _)
  have apart := holds.apart
  rw [map_cons, nodup_cons] at apart
  have noDevice : turn.2.endpointByDevice.get identity.key = none := by
    refine get_none_of_has fun device => holds.sound.not_both device ?_
    rw [named]
    exact has_iff.mpr ⟨_, shown⟩
  refine ⟨?_, apart.2, fun entry member => ?_⟩
  · rw [forgotten]
    exact holds.sound.forgetKeypadButton noDevice
  · have other : entry.1 ≠ identity.key := by
      rw [named]
      exact fun same => apart.1 (same ▸ mem_map_of_mem member)
    rw [forgotten]
    refine (forgetKeypadButton_elsewhere other).trans ?_
    exact holds.shown entry (.tail _ member)

theorem LeftToForget.clears (holds : LeftToForget left (shownEntry :: rest) turn)
    (succeed : ForgetCalls.Succeed (forgetting shownEntry.1)) (query : String) :
    buttonView (forgetUnlistedButton forgetting turn shownEntry).2 query =
      if query = shownEntry.1 then ⟨false, none⟩ else buttonView turn.2 query := by
  rcases @LeftToForget.forgets left turn forgetting shownEntry rest holds with
    ⟨identity, named, forgotten⟩
  have view := @buttonView_forgetKeypadButton turn.2 identity.keypadId identity.controlId _
    succeed query
  rw [ButtonIdentity.key] at named
  rw [named] at view
  rw [forgotten]
  exact view

theorem LeftToForget.foldl {entries : List (String × Nat)}
    (holds : LeftToForget left entries turn) :
    Sound left (entries.foldl (forgetUnlistedButton forgetting) turn).2 := by
  induction entries generalizing turn with
  | nil => exact holds.sound
  | cons first rest ih => exact ih holds.next

theorem Sound.leftToForget (sound : Sound left turn.2) (keep : String × Nat → Bool) :
    LeftToForget left (turn.2.endpointByButton.entries.filter keep) turn where
  sound := sound
  apart := turn.2.endpointByButton.nodup.sublist (filter_sublist.map _)
  shown _ member := get_eq_some_iff.mpr (mem_filter.mp member).1

variable {keypads : List (Keypad × (KeypadControl → ItemCalls))}

theorem Sound.reconcileKeypads (sound : Sound (controlsOf keypads).length driver) :
    Sound 0 (driver.reconcileKeypads types keypads forgetting).2 := by
  have exposed : Sound 0 ((controlsOf keypads).foldl (MatterBridgeDriver.reconcileButton types)
      (noResult, driver)).2 :=
    foldl_sound (fun _ _ _ => Sound.reconcileButton) (controlsOf keypads) (noResult, driver) sound
  exact (exposed.leftToForget _).foldl

theorem buttonView_reconcileKeypads (sound : Sound (controlsOf keypads).length driver)
    (apart : ((controlsOf keypads).map fun entry => buttonKey entry.1 entry.2.1).Nodup)
    (succeed : ∀ entry ∈ controlsOf keypads, ItemCalls.Succeed entry.2.2)
    (forgets : ∀ key, ForgetCalls.Succeed (forgetting key)) :
    (∀ entry ∈ controlsOf keypads, Treated (buttonTypeOf types entry.2.1) (fun _ _ => True)
        (buttonView driver (buttonKey entry.1 entry.2.1))
        (buttonView (driver.reconcileKeypads types keypads forgetting).2
          (buttonKey entry.1 entry.2.1))) ∧
      ∀ key, key ∉ ((controlsOf keypads).map fun entry => buttonKey entry.1 entry.2.1) →
        PassedBy (buttonView driver key)
          (buttonView (driver.reconcileKeypads types keypads forgetting).2 key) := by
  let controls := controlsOf keypads
  have exposes : TreatsPlaces (fun turn => buttonView turn.2)
      (fun entry => buttonKey entry.1 entry.2.1)
      (fun entry => Treated (buttonTypeOf types entry.2.1) fun _ _ => True) controls
      (noResult, driver) (controls.foldl (reconcileButton types) (noResult, driver)) := by
    refine foldl_treatsPlaces _ _ _ (fun left _ => ∀ entry ∈ left, ItemCalls.Succeed entry.2.2)
      (fun entry rest turn holds => ⟨?_, ?_⟩) apart succeed
    · exact fun other member => holds other (.tail _ member)
    · exact treats_reconcileButton (holds entry (.head _))
  let exposed := controls.foldl (reconcileButton types) (noResult, driver)
  let unlisted := exposed.2.endpointByButton.entries.filter fun entry =>
    decide (entry.1 ∉ controls.map fun entry => buttonKey entry.1 entry.2.1)
  have exposedSound : Sound 0 exposed.2 :=
    foldl_sound (fun _ _ _ => Sound.reconcileButton) controls (noResult, driver) sound
  have left : LeftToForget 0 unlisted exposed := exposedSound.leftToForget _
  have forgotten : TreatsPlaces (fun turn => buttonView turn.2) Prod.fst
      (fun _ _ now => now = ⟨false, none⟩) unlisted exposed
      (unlisted.foldl (forgetUnlistedButton forgetting) exposed) := by
    refine foldl_treatsPlaces _ _ _ (LeftToForget 0)
      (fun entry rest turn holds => ⟨holds.next, ?_⟩) left.apart left
    refine ⟨fun query other => ?_, ?_⟩
    · exact (holds.clears (forgets entry.1) query).trans (if_neg other)
    · exact (holds.clears (forgets entry.1) entry.1).trans (if_pos rfl)
  have picked (key : String) : key ∈ unlisted.map Prod.fst ↔
      (buttonView exposed.2 key).exposed = true ∧
        key ∉ controls.map fun entry => buttonKey entry.1 entry.2.1 := by
    constructor
    · intro inside
      rcases mem_map.mp inside with ⟨entry, member, rfl⟩
      rcases mem_filter.mp member with ⟨stands, outside⟩
      exact ⟨has_iff.mpr ⟨_, get_eq_some_iff.mpr stands⟩,
        decide_eq_true_iff.mp outside⟩
    · rintro ⟨shown, outside⟩
      rcases has_iff.mp shown with ⟨number, found⟩
      exact mem_map.mpr ⟨(key, number),
        mem_filter.mpr ⟨get_eq_some_iff.mp found, decide_eq_true outside⟩, rfl⟩
  rcases @TreatsPlaces.thenClears _ _ _ _ _ _ _ _ _ _ (fun view => view.exposed = true) _ _ _ _ _
    exposes forgotten picked with ⟨listed, others⟩
  exact ⟨listed, fun key outside => ⟨(others key outside).1, (others key outside).2⟩⟩

theorem buttonsConverged_iff : ButtonsConverged types
      ((controlsOf keypads).map fun entry => (entry.1, entry.2.1)) driver ↔
    (∀ key, (buttonView driver key).exposed = true ↔
      ∃ entry ∈ controlsOf keypads, buttonKey entry.1 entry.2.1 = key ∧
        (buttonTypeOf types entry.2.1).isSome = true) ∧
    ∀ key mapping, (buttonView driver key).record = some mapping →
      (namedControl mapping.controlId).isSome = true →
        key ∈ (controlsOf keypads).map fun entry => buttonKey entry.1 entry.2.1 := by
  constructor
  · rintro ⟨exposed, recorded⟩
    refine ⟨fun key => (exposed key).trans ?_, fun key mapping found button => ?_⟩
    · simp
    · rcases recorded mapping (mem_list_of_get found) button with ⟨listed, member, same⟩
      rw [← MatterEndpointStore.key_of_get found, ← same]
      rcases mem_map.mp member with ⟨entry, inside, rfl⟩
      exact mem_map_of_mem inside
  · rintro ⟨exposed, recorded⟩
    refine ⟨fun key => (exposed key).trans ?_, fun mapping member button => ?_⟩
    · simp
    · have inside := recorded mapping.key mapping (mem_list_iff.mp member) button
      rcases mem_map.mp inside with ⟨entry, listed, same⟩
      exact ⟨(entry.1, entry.2.1), mem_map_of_mem listed, same⟩

theorem buttonsConverged_iff_ready (sound : Sound (controlsOf keypads).length driver)
    (apart : ((controlsOf keypads).map fun entry => buttonKey entry.1 entry.2.1).Nodup)
    (succeed : ∀ entry ∈ controlsOf keypads, ItemCalls.Succeed entry.2.2)
    (forgets : ∀ key, ForgetCalls.Succeed (forgetting key)) :
    ButtonsConverged types ((controlsOf keypads).map fun entry => (entry.1, entry.2.1))
        (driver.reconcileKeypads types keypads forgetting).2 ↔
      ButtonsReady ((controlsOf keypads).map fun entry => (entry.1, entry.2.1)) driver := by
  rcases @buttonView_reconcileKeypads driver types forgetting keypads sound apart succeed forgets
    with ⟨listed, unlisted⟩
  have converges := converges_iff
    (fun entry : Keypad × KeypadControl × ItemCalls => buttonKey entry.1 entry.2.1)
    (fun entry => (buttonTypeOf types entry.2.1).isSome = true) (fun _ => True)
    (fun mapping => (namedControl mapping.controlId).isSome = true) (controlsOf keypads)
    (fun entry member => ⟨fun untyped => ?_, fun isTyped => ?_⟩) unlisted
  · rw [buttonsConverged_iff, converges]
    constructor
    · rintro ⟨deleted, -⟩ mapping member button outside
      refine deleted mapping.key mapping (mem_list_iff.mp member) button fun inside => ?_
      rcases mem_map.mp inside with ⟨entry, listed, same⟩
      exact outside (entry.1, entry.2.1) (mem_map_of_mem listed) same
    · intro ready
      refine ⟨fun key mapping found button outside => ?_, fun _ _ _ _ => trivial⟩
      have shown := ready mapping (mem_list_of_get found) button
      rw [MatterEndpointStore.key_of_get found] at shown
      refine shown fun entry member same => outside ?_
      rcases mem_map.mp member with ⟨listed, inside, rfl⟩
      exact mem_map.mpr ⟨listed, inside, same⟩
  · exact (listed entry member).unsupported (by simpa using untyped)
  · rcases isSome_iff_exists.mp isTyped with ⟨deviceType, typed⟩
    exact (listed entry member).supported deviceType typed

end Buttons

section Steps

variable {types : MatterDeviceTypeRegistry} {label : BridgeLabel}

theorem Sound.withRoom (sound : Sound 0 driver)
    (room : HasRoom driver label) : Sound (demand label) driver :=
  ⟨sound.indexes, sound.named, sound.distinct, room.1, fun _ => room.2⟩

theorem Sound.step (sound : Sound (demand label) driver) : Sound 0 (driver.step types label) := by
  cases label with
  | start calls => exact Sound.start sound calls
  | stop rejected => exact Sound.stop sound rejected
  | exposeDevice device calls => exact (exposes_exposeDevice calls).sound 0 sound
  | removeLight deviceId rejected => exact Sound.removeLight sound
  | reconcile devices forgetting => exact Sound.reconcile sound
  | reconcileKeypads keypads forgetting => exact Sound.reconcileKeypads sound

theorem convergesIfReady_step (sound : Sound (demand label) driver) :
    ConvergesIfReady types driver label (driver.step types label) := by
  cases label with
  | reconcile devices forgetting => exact converged_iff_ready
  | reconcileKeypads keypads forgetting => exact buttonsConverged_iff_ready sound
  | start _ | stop _ | exposeDevice _ _ | removeLight _ _ => trivial

/-- After every history a pass converges exactly if it finds every deleted record exposed. -/
theorem passes_converge {start : RegistryState} (started : Started start)
    (labels : List BridgeLabel)
    (room : (bridgeMachine types).Guarded HasRoom (constructed start.store) labels) :
    (bridgeMachine types).Throughout IndexesSound (constructed start.store) labels ∧
      (bridgeMachine types).EachStep (ConvergesIfReady types) (constructed start.store)
        labels := by
  have sound := sound_constructed started
  have kept (driver : MatterBridgeDriver) (label : BridgeLabel) (next : MatterBridgeDriver)
      (holds : Sound 0 driver) (fits : HasRoom driver label)
      (taken : (bridgeMachine types).step driver label = some next) : Sound 0 next := by
    cases taken
    exact (holds.withRoom fits).step
  refine ⟨(Machine.throughout_of_guarded kept sound room).mono fun _ holds => holds.indexes, ?_⟩
  refine Machine.eachStep_of_guarded kept (fun driver label next holds fits taken => ?_) sound room
  cases taken
  exact convergesIfReady_step (holds.withRoom fits)

end Steps

def succeeding : ItemCalls := ⟨⟨none, none, none, none⟩, none⟩

def forgets (_ : String) : ForgetCalls := ⟨none, none⟩

def lamp (capabilities : List DeclaredCapability) : BridgedDevice × ItemCalls :=
  (⟨light, "Lamp", capabilities, none⟩, succeeding)

/-- The lamp is shown, cannot be shown for a while, and is shown again. -/
theorem passes_converge_shown : (bridgeMachine matterDeviceTypeRegistry).Throughout IndexesSound
        (constructed ⟨KeyedStore.empty, none⟩)
        [.reconcile [lamp [⟨.onoff, .object []⟩]] forgets, .reconcile [lamp []] forgets,
          .reconcile [lamp [⟨.onoff, .object []⟩]] forgets] ∧
      (bridgeMachine matterDeviceTypeRegistry).EachStep (ConvergesIfReady matterDeviceTypeRegistry)
        (constructed ⟨KeyedStore.empty, none⟩)
        [.reconcile [lamp [⟨.onoff, .object []⟩]] forgets, .reconcile [lamp []] forgets,
          .reconcile [lamp [⟨.onoff, .object []⟩]] forgets] :=
  passes_converge .memory _ (by decide +kernel)

/-- Deleted after it could not be shown for a while, the lamp stays recorded. -/
theorem passes_converge_fails_unsupported :
    ¬ ∀ (types : MatterDeviceTypeRegistry) (start : RegistryState), Started start →
      ∀ (labels : List BridgeLabel) (driver : MatterBridgeDriver),
        (bridgeMachine types).run (constructed start.store) labels = some driver →
        ∀ (devices : List (BridgedDevice × ItemCalls)) (forgetting : String → ForgetCalls),
          (devices.map fun entry => entry.1.id).Nodup →
          (∀ entry ∈ devices, ItemCalls.Succeed entry.2) →
          (∀ key, ForgetCalls.Succeed (forgetting key)) → Converged types (devices.map Prod.fst)
            (driver.reconcile types devices forgetting).2 := by
  intro always
  have converged := always matterDeviceTypeRegistry _ .memory
    [.reconcile [lamp [⟨.onoff, .object []⟩]] forgets, .reconcile [lamp []] forgets] _ rfl []
    forgets nodup_nil (fun _ member => absurd member not_mem_nil) fun _ => ⟨rfl, rfl⟩
  have recorded := converged.recorded
  revert recorded
  decide +kernel

end MatterBridgeDriver

end SupremeOs.MatterBridge
