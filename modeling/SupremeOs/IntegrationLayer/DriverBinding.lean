import SupremeOs.IntegrationLayer.NativeAdapter
import SupremeOs.IntegrationLayer.ProviderRegistry

/-!
# Driver binding engine

Two stores know about a bound device: the provider registry holds its record
and lifecycle state, the native adapter holds the driver that owns it.  The
driver binding engine is the one writer of both; the provider router admits a
command by the first and the adapter delivers it by the second.

This file gives the operations as completed calls, one after another, with the
answer of the driver to `bind` as an argument.  The second part determines
exactly in which sequences of calls the two stores agree about every device
that takes commands.
-/

namespace SupremeOs.IntegrationLayer

open Support DomainModel Option

inductive ErrorCode where
  | unauthorized
  | forbidden
  | notFound
  | validationFailed
  | conflict
  | rateLimited
  | backendUnavailable
  | internal

/-- What a call can throw: an error with a code for clients, or a plain one. -/
inductive Thrown where
  | supremeError (code : ErrorCode) (message : String)
  | error (message : String)

structure ProtocolBinding where
  deviceId : DeviceId
  capability : CapabilityKind
  address : String
  config : Option (OrderedMap String JsValue)

namespace NativeWorld

/-- The end of the adapter's `bind`: the driver has accepted the binding. -/
def ownDevice (world : NativeWorld) (deviceId : DeviceId)
    (driver : NativeProtocolDriver) : NativeWorld :=
  { world with
    adapter := { world.adapter with
      managed := world.adapter.managed.set deviceId ()
      ownerByDevice := world.adapter.ownerByDevice.set deviceId driver } }

/-- The adapter's `unbindDevice` up to the call of the driver's `unbind`. -/
def releaseDevice (world : NativeWorld) (deviceId : DeviceId) : NativeWorld :=
  { world with
    adapter := { world.adapter with
      ownerByDevice := world.adapter.ownerByDevice.delete deviceId
      managed := world.adapter.managed.delete deviceId
      states := world.adapter.states.filter
        fun entry => !startsWith entry.1 (deviceId ++ ":") } }

def command (world : NativeWorld) (deviceId : DeviceId) : Except Thrown NativeProtocolDriver :=
  if world.adapter.connected then
    match world.adapter.ownerByDevice.get deviceId with
    | some owner => .ok owner
    | none =>
      .error (.supremeError .backendUnavailable ("device " ++ deviceId ++ " has no bound driver"))
  else
    .error (.supremeError .backendUnavailable "supreme-native engine not connected")

end NativeWorld

structure SilState where
  registry : ProviderRegistry
  native : NativeWorld

/-- The state after a call, and what it threw if it did. -/
abbrev Outcome := SilState × Option Thrown

/-- Go on where the call before has not thrown. -/
def Outcome.andThen (outcome : Outcome) (next : SilState → Outcome) : Outcome :=
  match outcome.2 with
  | none => next outcome.1
  | some _ => outcome

/-- `COMMANDABLE_STATES`. -/
def commandableStates : List DeviceLifecycleState := [.bound, .online, .offline]

namespace SilState

variable (sil : SilState) (deviceId : DeviceId)

/-- The router's check before a command is passed on. -/
def assertCommandable : Except Thrown Unit :=
  match sil.registry.get deviceId with
  | none =>
    .error (.supremeError .backendUnavailable
      ("device " ++ deviceId ++ " has no provider assigned"))
  | some record =>
    if record.state ∈ commandableStates then .ok ()
    else
      .error (.supremeError .backendUnavailable
        ("device " ++ deviceId ++ " is " ++ record.state.literal ++
          " — not currently commandable (provider \"" ++ record.provider ++ "\")"))

/-- The router's `command`: the driver that receives it. -/
def command (sil : SilState) (deviceId : DeviceId) : Except Thrown NativeProtocolDriver :=
  match sil.assertCommandable deviceId with
  | .error thrown => .error thrown
  | .ok () => sil.native.command deviceId

def transition (next : DeviceLifecycleState) : Outcome :=
  match sil.registry.transitionRecord deviceId next with
  | .error message => (sil, some (.error message))
  | .ok record => ({ sil with registry := sil.registry.write record }, none)

/-- Binding fails for a protocol without a registered driver. -/
def notConfigured (protocol : String) : Thrown :=
  .supremeError .backendUnavailable
    ("\"" ++ protocol ++ "\" isn't configured on this hub yet — check its " ++
      "connection settings (e.g. broker URL, host) before adding devices.")

/-- The adapter's `bind`, with what the driver's `bind` throws if it does. -/
def hostBind (binding : ProtocolBinding) (protocol : String) (failure : Option Thrown) : Outcome :=
  match sil.native.adapter.driverFor protocol with
  | none => (sil, some (notConfigured protocol))
  | some driver =>
    match failure with
    | some thrown => (sil, some thrown)
    | none => ({ sil with native := sil.native.ownDevice binding.deviceId driver }, none)

/-- `bind` assigns the provider to a device without a record. -/
def assigned (provider : String) : SilState :=
  match sil.registry.get deviceId with
  | some _ => sil
  | none =>
    { sil with
      registry := sil.registry.write (ProviderRegistry.assignRecord deviceId provider) }

/-- `bind` after the call of the adapter: `error`, or `bound` and then `online`. -/
def finishBinding (outcome : Outcome) : Outcome :=
  match outcome.2 with
  | some thrown =>
    (outcome.1.transition deviceId .error).andThen fun sil => (sil, some thrown)
  | none =>
    (outcome.1.transition deviceId .bound).andThen fun sil =>
      sil.transition deviceId .online

def bind (binding : ProtocolBinding) (provider : String) (failure : Option Thrown) : Outcome :=
  ((sil.assigned binding.deviceId provider).transition binding.deviceId .binding).andThen
    fun sil => finishBinding binding.deviceId (sil.hostBind binding provider failure)

def unbind : Outcome :=
  match sil.registry.get deviceId with
  | none => (sil, none)
  | some record =>
    if record.state = .unbound then (sil, none)
    else
      { sil with native := sil.native.releaseDevice deviceId }.transition deviceId .unbound

def rebind (binding : ProtocolBinding) (provider : String) (failure : Option Thrown) : Outcome :=
  (sil.unbind binding.deviceId).andThen fun sil => sil.bind binding provider failure

def recover (sil : SilState) (binding : ProtocolBinding) (failure : Option Thrown) : Outcome :=
  match sil.registry.get binding.deviceId with
  | none =>
    (sil, some (.error ("device " ++ binding.deviceId ++ " has no provider record to recover")))
  | some record => sil.rebind binding record.provider failure

/-- The router's `unbindDevice`. -/
def unbindDevice : Outcome :=
  (sil.unbind deviceId).andThen fun sil =>
    ({ sil with registry := sil.registry.delete deviceId }, none)

inductive Operation where
  | bind (binding : ProtocolBinding) (provider : String) (failure : Option Thrown)
  | unbind (deviceId : DeviceId)
  | rebind (binding : ProtocolBinding) (provider : String) (failure : Option Thrown)
  | recover (binding : ProtocolBinding) (failure : Option Thrown)
  | unbindDevice (deviceId : DeviceId)
  | registerDriver (driver : NativeProtocolDriver) (failure : Option String)
  | unregisterProtocol (protocol : String)

def perform : Operation → SilState
  | .bind binding provider failure => (sil.bind binding provider failure).1
  | .unbind deviceId => (sil.unbind deviceId).1
  | .rebind binding provider failure => (sil.rebind binding provider failure).1
  | .recover binding failure => (sil.recover binding failure).1
  | .unbindDevice deviceId => (sil.unbindDevice deviceId).1
  | .registerDriver driver failure =>
    { sil with native := sil.native.registerDriver driver failure }
  | .unregisterProtocol protocol =>
    { sil with native := sil.native.unregisterProtocol protocol }

def machine : Machine SilState Operation where
  step sil operation := some (sil.perform operation)

def Owned (record : DeviceProviderRecord) : Prop :=
  ∃ driver, sil.native.adapter.ownerByDevice.get deviceId = some driver ∧
    driver ∈ sil.native.adapter.drivers ∧ driver.protocol = record.provider

/--
Every commandable device is owned by the registered driver its record names,
and every command that the router lets through reaches this driver.
-/
def Agrees : Prop :=
  ∀ deviceId record, sil.registry.get deviceId = some record → record.state ∈ commandableStates →
      sil.Owned deviceId record ∧ (sil.native.adapter.connected = true →
          ∃ driver, sil.command deviceId = .ok driver ∧
            driver ∈ sil.native.adapter.drivers ∧ driver.protocol = record.provider)

/-- The driver that accepts a binding, if one does. -/
def accepting (provider : String) (failure : Option Thrown) : Option NativeProtocolDriver :=
  match failure with
  | none => sil.native.adapter.driverFor provider
  | some _ => none

/-- The driver that a protocol is about to lose owns no commandable device. -/
def Spares (protocol : String) : Prop :=
  ∀ removed, sil.native.adapter.driverFor protocol = some removed →
    ∀ deviceId record, sil.registry.get deviceId = some record → record.state ∈ commandableStates →
        sil.native.adapter.ownerByDevice.get deviceId ≠ some removed

/--
A device that has a record is bound to another provider only without success,
and a driver is replaced or removed only while it owns no commandable device.
-/
def KeepsAgreement : Operation → Prop
  | .bind binding provider failure =>
    ∀ record, sil.registry.get binding.deviceId = some record →
      provider = record.provider ∨ sil.accepting provider failure = none
  | .rebind binding provider failure =>
    ∀ record, sil.registry.get binding.deviceId = some record →
      provider = record.provider ∨ sil.accepting provider failure = none
  | .registerDriver driver _ => sil.Spares driver.protocol
  | .unregisterProtocol protocol => sil.Spares protocol
  | _ => True

variable {sil : SilState} {deviceId : DeviceId} {record : DeviceProviderRecord}

theorem agrees_iff : sil.Agrees ↔ ∀ deviceId record, sil.registry.get deviceId = some record →
        record.state ∈ commandableStates → sil.Owned deviceId record := by
  constructor
  · intro agrees deviceId record found commandable
    exact (agrees deviceId record found commandable).1
  · intro owned deviceId record found commandable
    refine ⟨owned deviceId record found commandable, ?_⟩
    intro connected
    rcases owned deviceId record found commandable with ⟨driver, owner, registered, named⟩
    refine ⟨driver, ?_, registered, named⟩
    simp only [command, assertCommandable, found, commandable, if_true,
      NativeWorld.command, connected, owner]

/-- Between two calls a device is unbound, online or in error. -/
def Settled (sil : SilState) : Prop :=
  ∀ deviceId record, sil.registry.get deviceId = some record →
    record.deviceId = deviceId ∧ record.state ∈ [.unbound, .online, .error]

def recordFor (sil : SilState) (deviceId : DeviceId) (provider : String) : DeviceProviderRecord :=
  (sil.registry.get deviceId).getD (ProviderRegistry.assignRecord deviceId provider)

theorem transition_eq (found : sil.registry.get deviceId = some record)
    (next : DeviceLifecycleState) (allowed : canTransition record.state next = true) :
    sil.transition deviceId next =
      ({ sil with registry := sil.registry.write { record with state := next } }, none) := by
  simp only [transition, ProviderRegistry.transitionRecord, found, allowed, if_true]

theorem assigned_spec (sil : SilState) (deviceId : DeviceId) (provider : String) :
    (sil.assigned deviceId provider).native = sil.native ∧
      ∀ query, (sil.assigned deviceId provider).registry.get query =
        if query = deviceId then some (sil.recordFor deviceId provider)
        else sil.registry.get query := by
  simp only [assigned, recordFor]
  cases found : sil.registry.get deviceId with
  | none =>
    refine ⟨rfl, ?_⟩
    intro query
    rw [ProviderRegistry.get_write]
    rfl
  | some record =>
    refine ⟨rfl, ?_⟩
    intro query
    by_cases same : query = deviceId
    · rw [if_pos same, same, found]
      rfl
    · rw [if_neg same]

theorem Settled.recordFor (settled : Settled sil) (deviceId : DeviceId) (provider : String) :
    (sil.recordFor deviceId provider).deviceId = deviceId ∧
      (sil.recordFor deviceId provider).state ∈ [.unbound, .online, .error] := by
  simp only [SilState.recordFor]
  cases found : sil.registry.get deviceId with
  | none => exact ⟨rfl, .head _⟩
  | some record => exact settled deviceId record found

theorem canTransition_of_settled {state : DeviceLifecycleState}
    (settled : state ∈ [.unbound, .online, .error]) :
    canTransition state .binding = true ∧
      (state ≠ .unbound → canTransition state .unbound = true) := by
  simp only [List.mem_cons, List.not_mem_nil, or_false] at settled
  rcases settled with rfl | rfl | rfl <;> decide

/-- The adapter's `bind` throws and changes nothing, or the device gets its owner. -/
theorem hostBind_cases (sil : SilState) (binding : ProtocolBinding) (provider : String)
    (failure : Option Thrown) :
    (sil.accepting provider failure = none ∧
      ∃ thrown, sil.hostBind binding provider failure = (sil, some thrown)) ∨
    ∃ driver, sil.accepting provider failure = some driver ∧ sil.hostBind binding provider failure =
        ({ sil with native := sil.native.ownDevice binding.deviceId driver }, none) := by
  simp only [accepting, hostBind]
  cases sil.native.adapter.driverFor provider with
  | none =>
    refine .inl ⟨?_, notConfigured provider, rfl⟩
    cases failure <;> rfl
  | some driver =>
    cases failure with
    | some thrown => exact .inl ⟨rfl, thrown, rfl⟩
    | none => exact .inr ⟨driver, rfl, rfl⟩

theorem finishBinding_spec (sil : SilState) (thrown : Option Thrown)
    (found : sil.registry.get deviceId = some record)
    (same : record.deviceId = deviceId) (binding : record.state = .binding) :
    (finishBinding deviceId (sil, thrown)).1.native = sil.native ∧
      ∀ query, (finishBinding deviceId (sil, thrown)).1.registry.get query =
        if query = deviceId then
          some { record with state := if thrown.isSome then .error else .online }
        else sil.registry.get query := by
  cases thrown with
  | some thrown =>
    have ended := transition_eq found .error (by rw [binding]; decide)
    simp only [finishBinding, ended, Outcome.andThen]
    refine ⟨trivial, ?_⟩
    intro query
    simp [same]
  | none =>
    have bound := transition_eq found .bound (by rw [binding]; decide)
    have stored : (sil.registry.write { record with state := .bound }).get deviceId =
        some { record with state := .bound } := by
      simp [same]
    simp only [finishBinding, bound, Outcome.andThen]
    have online : SilState.transition
        { sil with registry := sil.registry.write { record with state := .bound } }
        deviceId .online = _ :=
      transition_eq stored .online rfl
    rw [online]
    refine ⟨rfl, ?_⟩
    intro query
    by_cases here : query = deviceId <;> simp [here, same]

theorem beginBinding_spec (settled : Settled sil) (deviceId : DeviceId) (provider : String) :
    ∃ middle, (sil.assigned deviceId provider).transition deviceId .binding = (middle, none) ∧
      middle.native = sil.native ∧ ∀ query, middle.registry.get query = if query = deviceId then
          some { sil.recordFor deviceId provider with state := .binding }
        else sil.registry.get query := by
  rcases settled.recordFor deviceId provider with ⟨same, state⟩
  rcases assigned_spec sil deviceId provider with ⟨native, records⟩
  have found : (sil.assigned deviceId provider).registry.get deviceId =
      some (sil.recordFor deviceId provider) := by
    rw [records, if_pos rfl]
  refine ⟨_, transition_eq found .binding (canTransition_of_settled state).1, native, ?_⟩
  intro query
  rw [ProviderRegistry.get_write, records]
  by_cases here : query = deviceId <;> simp [here, same]

/-- A bind ends `online` with the accepting driver as owner, or in `error`. -/
theorem bind_spec (settled : Settled sil) (binding : ProtocolBinding)
    (provider : String) (failure : Option Thrown) :
    (∀ query, (sil.bind binding provider failure).1.registry.get query =
      if query = binding.deviceId then
        some { sil.recordFor binding.deviceId provider with
          state := if (sil.accepting provider failure).isSome then .online else .error }
      else sil.registry.get query) ∧ (sil.bind binding provider failure).1.native =
      match sil.accepting provider failure with
      | none => sil.native
      | some driver => sil.native.ownDevice binding.deviceId driver := by
  rcases beginBinding_spec settled binding.deviceId provider with
    ⟨middle, begun, native, records⟩
  have same := (settled.recordFor binding.deviceId provider).1
  have found : middle.registry.get binding.deviceId =
      some { sil.recordFor binding.deviceId provider with state := .binding } := by
    rw [records, if_pos rfl]
  have sameAdapter : middle.accepting provider failure = sil.accepting provider failure := by
    simp only [accepting, native]
  simp only [bind, begun, Outcome.andThen]
  rcases hostBind_cases middle binding provider failure with
    ⟨refused, thrown, ended⟩ | ⟨driver, accepted, ended⟩
  · rw [ended, ← sameAdapter, refused]
    rcases finishBinding_spec middle (some thrown) found same rfl with ⟨kept, others⟩
    refine ⟨?_, kept.trans native⟩
    intro query
    rw [others, records]
    by_cases here : query = binding.deviceId <;> simp [here]
  · rw [ended, ← sameAdapter, accepted]
    rcases finishBinding_spec
        { middle with native := middle.native.ownDevice binding.deviceId driver } none
        found same rfl with
      ⟨kept, others⟩
    refine ⟨?_, by rw [kept, native]⟩
    intro query
    rw [others, records]
    by_cases here : query = binding.deviceId <;> simp [here]

/-- An unbind leaves the device `unbound` and touches no other device. -/
theorem unbind_spec (settled : Settled sil) (deviceId : DeviceId) : (sil.unbind deviceId).2 = none ∧
    (∀ query, (sil.unbind deviceId).1.registry.get query = if query = deviceId then
        (sil.registry.get deviceId).map fun record => { record with state := .unbound }
      else sil.registry.get query) ∧
    (sil.unbind deviceId).1.native.adapter.drivers = sil.native.adapter.drivers ∧
    ∀ query, query ≠ deviceId → (sil.unbind deviceId).1.native.adapter.ownerByDevice.get query =
        sil.native.adapter.ownerByDevice.get query := by
  simp only [unbind]
  cases found : sil.registry.get deviceId with
  | none =>
    refine ⟨rfl, ?_, rfl, fun _ _ => rfl⟩
    intro query
    by_cases same : query = deviceId
    · rw [if_pos same, same, found]
      rfl
    · rw [if_neg same]
  | some record =>
    rcases settled deviceId record found with ⟨owner, state⟩
    by_cases unbound : record.state = .unbound
    · simp only [unbound, if_true]
      refine ⟨trivial, ?_, trivial, fun _ _ => trivial⟩
      intro query
      by_cases same : query = deviceId
      · rw [if_pos same, same, found, ← unbound]
        rfl
      · rw [if_neg same]
    · simp only [unbound, if_false]
      have stored :
          (SilState.mk sil.registry (sil.native.releaseDevice deviceId)).registry.get
            deviceId = some record := found
      rw [transition_eq stored .unbound ((canTransition_of_settled state).2 unbound)]
      refine ⟨rfl, ?_, rfl, ?_⟩
      · intro query
        by_cases same : query = deviceId <;> simp [same, owner]
      · intro query differs
        simp [NativeWorld.releaseDevice, differs]

theorem unregisterProtocol_spec (world : NativeWorld) (protocol : String) :
    (world.adapter.driverFor protocol = none → world.unregisterProtocol protocol = world) ∧
    ∀ removed, world.adapter.driverFor protocol = some removed →
      (world.unregisterProtocol protocol).adapter.drivers = world.adapter.withoutDriver protocol ∧
        ∀ deviceId driver, (world.unregisterProtocol protocol).adapter.ownerByDevice.get deviceId =
              some driver ↔
            world.adapter.ownerByDevice.get deviceId = some driver ∧ driver ≠ removed := by
  simp only [NativeWorld.unregisterProtocol, NativeWorld.releaseProtocol]
  constructor
  · intro absent
    rw [absent]
  · intro removed found
    rw [found]
    simp only [NativeWorld.forgetDriver, NativeWorld.dropConnectErrors, NativeWorld.markDown]
    rw [NativeWorld.unsubscribe_frame]
    refine ⟨rfl, ?_⟩
    intro deviceId driver
    rw [OrderedMap.get_filter_eq_some_iff]
    simp

theorem registerDriver_spec (world : NativeWorld) (driver : NativeProtocolDriver)
    (failure : Option String) :
    (world.registerDriver driver failure).adapter.drivers =
        (world.unregisterProtocol driver.protocol).adapter.drivers ++ [driver] ∧
      (world.registerDriver driver failure).adapter.ownerByDevice =
        (world.unregisterProtocol driver.protocol).adapter.ownerByDevice := by
  simp only [NativeWorld.registerDriver, NativeWorld.wireDriver]
  cases failure <;> exact ⟨rfl, rfl⟩

theorem Owned.congr {next : SilState} (owned : sil.Owned deviceId record)
    (owner : next.native.adapter.ownerByDevice.get deviceId =
      sil.native.adapter.ownerByDevice.get deviceId)
    (drivers : next.native.adapter.drivers = sil.native.adapter.drivers) :
    next.Owned deviceId record := by
  rcases owned with ⟨driver, owns, registered, named⟩
  exact ⟨driver, owner.trans owns, drivers ▸ registered, named⟩

theorem agrees_bind_iff (settled : Settled sil) (agrees : sil.Agrees)
    (binding : ProtocolBinding) (provider : String) (failure : Option Thrown) :
    (sil.bind binding provider failure).1.Agrees ↔
      sil.KeepsAgreement (.bind binding provider failure) := by
  rcases bind_spec settled binding provider failure with ⟨records, native⟩
  rw [agrees_iff] at agrees ⊢
  simp only [KeepsAgreement]
  have others : ∀ query record, query ≠ binding.deviceId →
      sil.registry.get query = some record → record.state ∈ commandableStates →
      (sil.bind binding provider failure).1.Owned query record := by
    intro query record differs found commandable
    apply (agrees query record found commandable).congr
    · rw [native]
      split
      · rfl
      · simp [NativeWorld.ownDevice, differs]
    · rw [native]
      split <;> rfl
  cases accepted : sil.accepting provider failure with
  | none =>
    refine iff_of_true ?_ fun _ _ => .inr rfl
    intro query record found commandable
    rw [records] at found
    by_cases here : query = binding.deviceId
    · simp only [here, if_true, accepted, some.injEq] at found
      subst found
      exact absurd commandable (by show DeviceLifecycleState.error ∉ _; decide)
    · rw [if_neg here] at found
      exact others query record here found commandable
  | some driver =>
    have registered : driver ∈ sil.native.adapter.drivers ∧ driver.protocol = provider := by
      simp only [accepting] at accepted
      split at accepted
      · exact SupremeNativeAdapter.driverFor_eq_some accepted
      · simp at accepted
    have owner : (sil.bind binding provider failure).1.native =
        sil.native.ownDevice binding.deviceId driver := by
      rw [native, accepted]
    have bound : (sil.bind binding provider failure).1.registry.get binding.deviceId =
        some { sil.recordFor binding.deviceId provider with state := .online } := by
      rw [records, if_pos rfl, accepted]
      rfl
    constructor
    · intro agreed record found
      rcases agreed binding.deviceId _ bound (show DeviceLifecycleState.online ∈ _ by decide)
        with ⟨owning, owns, _, named⟩
      rw [owner] at owns
      simp only [NativeWorld.ownDevice, OrderedMap.get_set, if_true, some.injEq] at owns
      subst owns
      simp only [recordFor, found, Option.getD_some] at named
      exact .inl (registered.2.symm.trans named)
    · intro named query record found commandable
      by_cases here : query = binding.deviceId
      · subst here
        cases bound.symm.trans found
        refine ⟨driver, by simp [owner, NativeWorld.ownDevice], ?_, ?_⟩
        · rw [owner]
          exact registered.1
        · rw [registered.2]
          show provider = (sil.recordFor binding.deviceId provider).provider
          simp only [recordFor]
          cases before : sil.registry.get binding.deviceId with
          | none => rfl
          | some record => exact (named record before).resolve_right (by simp)
      · rw [records, if_neg here] at found
        exact others query record here found commandable

theorem agrees_unbind (settled : Settled sil) (agrees : sil.Agrees)
    (deviceId : DeviceId) : (sil.unbind deviceId).1.Agrees := by
  rcases unbind_spec settled deviceId with ⟨_, records, drivers, owners⟩
  rw [agrees_iff] at agrees ⊢
  intro query record found commandable
  rw [records] at found
  by_cases here : query = deviceId
  · simp only [here, if_true, Option.map_eq_some_iff] at found
    rcases found with ⟨before, _, rfl⟩
    exact absurd commandable (by show DeviceLifecycleState.unbound ∉ _; decide)
  · rw [if_neg here] at found
    exact (agrees query record found commandable).congr (owners query here) drivers

theorem agrees_remove (agrees : sil.Agrees) (deviceId : DeviceId) :
    Agrees { sil with registry := sil.registry.delete deviceId } := by
  rw [agrees_iff] at agrees ⊢
  intro query record found commandable
  simp only [ProviderRegistry.get_delete] at found
  split at found
  · simp at found
  · exact (agrees query record found commandable).congr rfl rfl

theorem agrees_unregister_iff (agrees : sil.Agrees) {protocol : String} {world : NativeWorld}
    (owners : world.adapter.ownerByDevice =
      (sil.native.unregisterProtocol protocol).adapter.ownerByDevice)
    (drivers : ∀ driver ∈ (sil.native.unregisterProtocol protocol).adapter.drivers,
      driver ∈ world.adapter.drivers)
    (nothing : sil.native.adapter.driverFor protocol = none → ∀ driver,
      driver ∈ sil.native.adapter.drivers → driver ∈ world.adapter.drivers) :
    Agrees { sil with native := world } ↔ sil.Spares protocol := by
  rcases unregisterProtocol_spec sil.native protocol with ⟨absent, present⟩
  rw [agrees_iff] at agrees ⊢
  simp only [Spares]
  cases removes : sil.native.adapter.driverFor protocol with
  | none =>
    refine iff_of_true ?_ (by simp)
    intro deviceId record found commandable
    rcases agrees deviceId record found commandable with ⟨driver, owns, registered, named⟩
    refine ⟨driver, ?_, nothing removes driver registered, named⟩
    show world.adapter.ownerByDevice.get deviceId = some driver
    rw [owners, absent removes]
    exact owns
  | some removed =>
    rcases present removed removes with ⟨left, owned⟩
    constructor
    · rintro agreed _ ⟨rfl⟩ deviceId record found commandable owns
      rcases agreed deviceId record found commandable with ⟨driver, owner, _, _⟩
      have both := (owned deviceId driver).mp (owners ▸ owner)
      exact both.2 (some.inj (both.1.symm.trans owns))
    · intro spared deviceId record found commandable
      rcases agrees deviceId record found commandable with
        ⟨driver, owns, registered, named⟩
      have differs : driver ≠ removed := by
        rintro rfl
        exact spared driver rfl deviceId record found commandable owns
      refine ⟨driver, ?_, ?_, named⟩
      · show world.adapter.ownerByDevice.get deviceId = some driver
        rw [owners]
        exact (owned deviceId driver).mpr ⟨owns, differs⟩
      · apply drivers
        rw [left]
        by_contra dropped
        have same := SupremeNativeAdapter.driverFor_of_dropped registered dropped
        exact differs (some.inj (same.symm.trans removes))

theorem settled_bind (settled : Settled sil) (binding : ProtocolBinding)
    (provider : String) (failure : Option Thrown) :
    Settled (sil.bind binding provider failure).1 := by
  rcases bind_spec settled binding provider failure with ⟨records, _⟩
  intro query record found
  rw [records] at found
  by_cases here : query = binding.deviceId
  · simp only [here, if_true, some.injEq] at found
    subst found
    refine ⟨here ▸ (settled.recordFor binding.deviceId provider).1, ?_⟩
    cases sil.accepting provider failure <;> simp
  · rw [if_neg here] at found
    exact settled query record found

theorem settled_unbind (settled : Settled sil) (deviceId : DeviceId) :
    Settled (sil.unbind deviceId).1 := by
  rcases unbind_spec settled deviceId with ⟨_, records, _⟩
  intro query record found
  rw [records] at found
  by_cases here : query = deviceId
  · simp only [here, if_true, Option.map_eq_some_iff] at found
    rcases found with ⟨before, stored, rfl⟩
    exact ⟨here ▸ (settled deviceId before stored).1, .head _⟩
  · rw [if_neg here] at found
    exact settled query record found

theorem rebind_eq (settled : Settled sil) (binding : ProtocolBinding)
    (provider : String) (failure : Option Thrown) :
    sil.rebind binding provider failure =
      (sil.unbind binding.deviceId).1.bind binding provider failure := by
  simp only [rebind, Outcome.andThen, (unbind_spec settled binding.deviceId).1]

theorem agrees_rebind_iff (settled : Settled sil) (agrees : sil.Agrees)
    (binding : ProtocolBinding) (provider : String) (failure : Option Thrown) :
    (sil.rebind binding provider failure).1.Agrees ↔
      sil.KeepsAgreement (.rebind binding provider failure) := by
  rcases unbind_spec settled binding.deviceId with ⟨_, records, drivers, _⟩
  rw [rebind_eq settled, agrees_bind_iff (settled_unbind settled _)
    (agrees_unbind settled agrees _)]
  have sameAdapter : (sil.unbind binding.deviceId).1.accepting provider failure =
      sil.accepting provider failure := by
    simp only [accepting, SupremeNativeAdapter.driverFor, drivers]
  simp only [KeepsAgreement, sameAdapter, records, if_true, Option.map_eq_some_iff]
  constructor
  · intro named record found
    exact named { record with state := .unbound } ⟨record, found, rfl⟩
  · rintro named _ ⟨record, found, rfl⟩
    exact named record found

theorem agrees_step_iff (sil : SilState) (operation : Operation) (next : SilState)
    (settled : Settled sil) (agrees : sil.Agrees) (step : machine.step sil operation = some next) :
    next.Agrees ↔ sil.KeepsAgreement operation := by
  cases step
  cases operation with
  | bind binding provider failure => exact agrees_bind_iff settled agrees binding provider failure
  | unbind deviceId => exact iff_of_true (agrees_unbind settled agrees deviceId) trivial
  | rebind binding provider failure =>
    exact agrees_rebind_iff settled agrees binding provider failure
  | recover binding failure =>
    refine iff_of_true ?_ trivial
    simp only [perform, recover]
    cases found : sil.registry.get binding.deviceId with
    | none => exact agrees
    | some record =>
      apply (agrees_rebind_iff settled agrees binding record.provider failure).mpr
      intro other same
      exact .inl (congrArg _ (some.inj (found.symm.trans same)))
  | unbindDevice deviceId =>
    refine iff_of_true ?_ trivial
    simp only [perform, unbindDevice, Outcome.andThen, (unbind_spec settled deviceId).1]
    exact agrees_remove (agrees_unbind settled agrees deviceId) deviceId
  | registerDriver driver failure =>
    rcases registerDriver_spec sil.native driver failure with ⟨drivers, owners⟩
    apply agrees_unregister_iff agrees owners
    · intro other member
      rw [drivers]
      exact List.mem_append_left _ member
    · intro absent other member
      rw [drivers, (unregisterProtocol_spec sil.native driver.protocol).1 absent]
      exact List.mem_append_left _ member
  | unregisterProtocol protocol =>
    apply agrees_unregister_iff agrees rfl (fun _ member => member)
    intro absent other member
    rw [(unregisterProtocol_spec sil.native protocol).1 absent]
    exact member

theorem settled_step (sil : SilState) (operation : Operation) (next : SilState)
    (settled : Settled sil) (step : machine.step sil operation = some next) :
    Settled next := by
  cases step
  have rebinds (binding : ProtocolBinding) (provider : String) (failure : Option Thrown) :
      Settled (sil.rebind binding provider failure).1 := by
    rw [rebind_eq settled]
    exact settled_bind (settled_unbind settled _) binding provider failure
  cases operation with
  | bind binding provider failure => exact settled_bind settled binding provider failure
  | unbind deviceId => exact settled_unbind settled deviceId
  | rebind binding provider failure => exact rebinds binding provider failure
  | recover binding failure =>
    simp only [perform, recover]
    split
    · exact settled
    · exact rebinds binding _ failure
  | unbindDevice deviceId =>
    simp only [perform, unbindDevice, Outcome.andThen, (unbind_spec settled deviceId).1]
    intro query record found
    simp only [ProviderRegistry.get_delete] at found
    split at found
    · simp at found
    · exact settled_unbind settled deviceId query record found
  | registerDriver driver failure => exact settled
  | unregisterProtocol protocol => exact settled

/-- An adapter, connected or not, that has no bound device. -/
structure UnboundEngine where
  native : NativeWorld
  unowned : native.adapter.ownerByDevice = .empty

/--
In every sequence of calls that starts with an empty registry and an engine
without a bound device, every commandable device is owned by the registered
driver its record names, exactly if every call keeps the agreement.
-/
theorem agrees_iff_keepsAgreement (engine : UnboundEngine) (operations : List Operation) :
    machine.Throughout Agrees ⟨.empty, engine.native⟩ operations ↔
      machine.Guarded KeepsAgreement ⟨.empty, engine.native⟩ operations := by
  apply Machine.throughout_iff_guarded Settled agrees_step_iff
  · intro sil operation next settled _ _ step
    exact settled_step sil operation next settled step
  · intro deviceId record found
    simp at found
  · intro deviceId record found
    simp at found

/--
A device that is bound to KNX is rebound to DALI: the call succeeds, the record
still names KNX, and DALI owns the device.
-/
theorem rebound_device_keeps_provider : ¬ machine.Throughout Agrees
      ⟨.empty, .create [⟨0, "knx", false, true⟩, ⟨1, "dali", false, true⟩] .empty .empty⟩
      [.bind ⟨"device-1", .onoff, "1/1/1", none⟩ "knx" none,
        .rebind ⟨"device-1", .onoff, "17", none⟩ "dali" none] := by
  intro throughout
  have agrees := Machine.property_of_throughout throughout rfl
  rcases agrees_iff.mp agrees "device-1" ⟨"device-1", "knx", .online⟩ (by decide)
    (by decide) with ⟨driver, owns, _, named⟩
  have owner : driver = ⟨1, "dali", false, true⟩ :=
    some.inj (owns.symm.trans (by decide))
  subst owner
  revert named
  decide

end SilState

end SupremeOs.IntegrationLayer
