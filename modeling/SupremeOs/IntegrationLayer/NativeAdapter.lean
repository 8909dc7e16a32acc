import SupremeOs.DomainModel.Capabilities
import SupremeOs.Support.Machine
import Mathlib.Data.List.Nodup

/-!
# Native adapter

The native adapter fronts the protocol drivers.  It subscribes to a driver
when the driver has connected, keeps the way to end that subscription in a
table by protocol, caches what the devices themselves report and passes every
event on to its own listeners.

The state of this file is the adapter together with what its drivers hold: the
subscriptions that are live, and the drivers that are up.  The operations are
given as the segments between their await points, and put together to
operations that run one after another.  The last part determines exactly in
which sequences of operations every driver that is up feeds a connected
adapter exactly once.
-/

namespace SupremeOs.IntegrationLayer

open Support DomainModel Option

/-- A driver instance: its identity and what the adapter reads of it. -/
structure NativeProtocolDriver where
  identity : Nat
  protocol : String
  /-- The driver offers `onInputEvent`. -/
  feedsInput : Bool
  /-- The driver offers `unbind`. -/
  releasesDevices : Bool
deriving DecidableEq

/-- A normalized state change emitted by a driver. -/
structure BackendStateEvent where
  deviceId : DeviceId
  capability : CapabilityKind
  state : CapabilityState
  ts : String
  provenance : Option StateProvenance
  traceId : Option String
deriving DecidableEq

def BackendStateEvent.isObserved (event : BackendStateEvent) : Bool :=
  decide (event.provenance.getD .observed = .observed)

/--
The listeners the adapter has put on one driver: the one for states and, where
the driver offers it, the one for keypad input.  Ending it removes both.
-/
structure Subscription where
  serial : Nat
  driver : NativeProtocolDriver
deriving DecidableEq

abbrev ListenerRef := Nat

structure ConnectError where
  protocol : String
  error : String

structure SupremeNativeAdapter where
  connected : Bool
  listeners : OrderedSet ListenerRef
  inputListeners : OrderedSet ListenerRef
  states : OrderedMap String CapabilityState
  managed : OrderedSet DeviceId
  drivers : List NativeProtocolDriver
  /-- The driver that owns a device. -/
  ownerByDevice : OrderedMap DeviceId NativeProtocolDriver
  /-- The subscription that is ended when the driver of a protocol is removed. -/
  unsubByProtocol : OrderedMap String Subscription
  connectErrors : List ConnectError
  /-- Bumped by `disconnect`. -/
  epoch : Nat

def stateKey (deviceId : DeviceId) (capability : CapabilityKind) : String :=
  deviceId ++ ":" ++ capability.literal

namespace SupremeNativeAdapter

/-- The constructor; listeners may subscribe before anything else happens. -/
def create (drivers : List NativeProtocolDriver)
    (listeners inputListeners : OrderedSet ListenerRef) : SupremeNativeAdapter where
  connected := false
  listeners := listeners
  inputListeners := inputListeners
  states := .empty
  managed := .empty
  drivers := drivers
  ownerByDevice := .empty
  unsubByProtocol := .empty
  connectErrors := []
  epoch := 0

/-- The first registered driver of a protocol. -/
def driverFor (adapter : SupremeNativeAdapter) (protocol : String) : Option NativeProtocolDriver :=
  adapter.drivers.find? fun driver => decide (driver.protocol = protocol)

def withoutDriver (adapter : SupremeNativeAdapter) (protocol : String) :
    List NativeProtocolDriver :=
  adapter.drivers.eraseP fun driver => decide (driver.protocol = protocol)

variable {adapter : SupremeNativeAdapter} {protocol : String} {driver : NativeProtocolDriver}

theorem driverFor_eq_some (found : adapter.driverFor protocol = some driver) :
    driver ∈ adapter.drivers ∧ driver.protocol = protocol :=
  ⟨List.mem_of_find?_eq_some found, by simpa using List.find?_some found⟩

theorem driverFor_eq_none_iff : adapter.driverFor protocol = none ↔
      ∀ driver ∈ adapter.drivers, driver.protocol ≠ protocol := by
  simp [driverFor]

theorem driverFor_of_dropped (registered : driver ∈ adapter.drivers)
    (dropped : driver ∉ adapter.withoutDriver protocol) :
    adapter.driverFor protocol = some driver := by
  simp only [withoutDriver, driverFor] at *
  generalize adapter.drivers = drivers at registered dropped
  induction drivers with
  | nil => simp at registered
  | cons head rest ih =>
    by_cases same : head.protocol = protocol
    · rw [List.eraseP_cons_of_pos (by simpa using same)] at dropped
      rw [List.find?_cons_of_pos (by simpa using same)]
      rcases List.mem_cons.mp registered with rfl | member
      · rfl
      · exact (dropped member).elim
    · rw [List.eraseP_cons_of_neg (by simpa using same), List.mem_cons, not_or] at dropped
      rw [List.find?_cons_of_neg (by simpa using same)]
      exact ih ((List.mem_cons.mp registered).resolve_left dropped.1) dropped.2

theorem mem_withoutDriver_of_ne (registered : driver ∈ adapter.drivers)
    (differs : driver.protocol ≠ protocol) : driver ∈ adapter.withoutDriver protocol := by
  by_contra dropped
  exact differs (driverFor_eq_some (driverFor_of_dropped registered dropped)).2

/-- What the state listener of a subscription does to the cache. -/
def cacheState (adapter : SupremeNativeAdapter) (event : BackendStateEvent) :
    SupremeNativeAdapter :=
  if event.isObserved then
    { adapter with
      states := adapter.states.set (stateKey event.deviceId event.capability) event.state }
  else adapter

end SupremeNativeAdapter

/-- The adapter together with what its drivers hold. -/
structure NativeWorld where
  adapter : SupremeNativeAdapter
  live : List Subscription
  /-- The number of subscriptions made so far. -/
  issued : Nat
  /-- The drivers whose last connect succeeded and that were not disconnected since. -/
  up : List NativeProtocolDriver

namespace NativeWorld

def create (drivers : List NativeProtocolDriver)
    (listeners inputListeners : OrderedSet ListenerRef) : NativeWorld :=
  ⟨.create drivers listeners inputListeners, [], 0, []⟩

variable (world : NativeWorld) (driver : NativeProtocolDriver)

def subscriptions : List Subscription :=
  world.live.filter fun subscription => decide (subscription.driver = driver)

def hearState (event : BackendStateEvent)
    (heard : NativeWorld × List (ListenerRef × BackendStateEvent)) (_ : Subscription) :
    NativeWorld × List (ListenerRef × BackendStateEvent) :=
  ({ heard.1 with adapter := heard.1.adapter.cacheState event },
    heard.2 ++ heard.1.adapter.listeners.keys.map fun listener => (listener, event))

/-- A driver emits a state event to all listeners it has; the deliveries are returned. -/
def emitState (event : BackendStateEvent) : NativeWorld × List (ListenerRef × BackendStateEvent) :=
  (world.subscriptions driver).foldl (hearState event) (world, [])

/-- The listeners that receive a keypad input of a driver, once for each subscription. -/
def emitInput : List ListenerRef :=
  if driver.feedsInput then
    (world.subscriptions driver).flatMap fun _ => world.adapter.inputListeners.keys
  else []

/-- A connect attempt of a driver has ended well. -/
def markUp : NativeWorld :=
  { world with up := driver :: world.up }

/-- A connect attempt has failed, or the driver was disconnected. -/
def markDown : NativeWorld :=
  { world with up := world.up.filter fun other => decide (other ≠ driver) }

/-- The end of `wireDriver`: subscribe to the driver. -/
def wire : NativeWorld :=
  { world with
    adapter := { world.adapter with
      unsubByProtocol :=
        world.adapter.unsubByProtocol.set driver.protocol ⟨world.issued, driver⟩ }
    live := world.live ++ [⟨world.issued, driver⟩]
    issued := world.issued + 1 }

/-- The failure branch of `wireDriver`. -/
def recordConnectError (protocol error : String) : NativeWorld :=
  { world with
    adapter := { world.adapter with
      connectErrors := world.adapter.connectErrors ++ [⟨protocol, error⟩] } }

def dropConnectErrors (protocol : String) : NativeWorld :=
  { world with
    adapter := { world.adapter with
      connectErrors := world.adapter.connectErrors.filter
        fun error => decide (error.protocol ≠ protocol) } }

/-- End the subscription that the table holds for a protocol. -/
def unsubscribe (protocol : String) : NativeWorld :=
  match world.adapter.unsubByProtocol.get protocol with
  | none => world
  | some subscription =>
    { world with
      adapter := { world.adapter with
        unsubByProtocol := world.adapter.unsubByProtocol.delete protocol }
      live := world.live.filter fun other => decide (other ≠ subscription) }

/-- The start of `unregisterProtocol`: the removed driver, if there is one. -/
def releaseProtocol (protocol : String) : Option (NativeProtocolDriver × NativeWorld) :=
  match world.adapter.driverFor protocol with
  | none => none
  | some driver =>
    some (driver, { world with
        adapter := { world.adapter with
          drivers := world.adapter.withoutDriver protocol } }.unsubscribe protocol)

/-- The end of `unregisterProtocol`, when the removed driver has disconnected. -/
def forgetDriver (protocol : String) : NativeWorld :=
  let world := (world.markDown driver).dropConnectErrors protocol
  { world with
    adapter := { world.adapter with
      ownerByDevice := world.adapter.ownerByDevice.filter
        fun entry => decide (entry.2 ≠ driver) } }

/-- `registerDriver` adds the new driver. -/
def push : NativeWorld :=
  { world with
    adapter := { world.adapter with drivers := world.adapter.drivers ++ [driver] } }

/-- The start of `disconnect`: end every subscription the table knows. -/
def unsubscribeAll : NativeWorld :=
  { world with
    adapter := { world.adapter with
      epoch := world.adapter.epoch + 1
      unsubByProtocol := .empty }
    live := world.live.filter fun subscription =>
      decide (subscription ∉ world.adapter.unsubByProtocol.values) }

def setConnected (connected : Bool) : NativeWorld :=
  { world with adapter := { world.adapter with connected } }

/-- `wireDriver`, with the failure of the driver's connect if it fails. -/
def wireDriver (attempt : NativeProtocolDriver × Option String) : NativeWorld :=
  match attempt.2 with
  | some error =>
    (world.markDown attempt.1).recordConnectError attempt.1.protocol error
  | none => (world.markUp attempt.1).wire attempt.1

/-- `connect`, with its attempts in the order in which they end. -/
def connect (attempts : List (NativeProtocolDriver × Option String)) : NativeWorld :=
  if world.adapter.connected then world
  else (attempts.foldl wireDriver world).setConnected true

def disconnect : NativeWorld :=
  (world.adapter.drivers.foldl markDown world.unsubscribeAll).setConnected false

def unregisterProtocol (protocol : String) : NativeWorld :=
  match world.releaseProtocol protocol with
  | none => world
  | some (driver, world) => world.forgetDriver driver protocol

def registerDriver (failure : Option String) : NativeWorld :=
  ((world.unregisterProtocol driver.protocol).push driver).wireDriver (driver, failure)

/-- `connectProtocol`; a failure of the driver's connect is passed to the caller. -/
def connectProtocol (protocol : String) (failure : Option String) : NativeWorld :=
  match world.adapter.driverFor protocol with
  | none => world
  | some driver =>
    match failure with
    | some _ => world.markDown driver
    | none => (world.markUp driver).dropConnectErrors protocol

def disconnectProtocol (protocol : String) : NativeWorld :=
  match world.adapter.driverFor protocol with
  | none => world
  | some driver => world.markDown driver

inductive Operation where
  | connect (attempts : List (NativeProtocolDriver × Option String))
  | disconnect
  | registerDriver (driver : NativeProtocolDriver) (failure : Option String)
  | unregisterProtocol (protocol : String)
  | connectProtocol (protocol : String) (failure : Option String)
  | disconnectProtocol (protocol : String)

/--
Calls one after another.  A `connect` that is not a repeated one attempts every
registered driver once, and the attempts end in any order.
-/
def machine : Machine NativeWorld Operation where
  step
    | world, .connect attempts =>
      if world.adapter.connected ∨ (attempts.map Prod.fst).isPerm world.adapter.drivers then
        some (world.connect attempts)
      else none
    | world, .disconnect => some world.disconnect
    | world, .registerDriver driver failure => some (world.registerDriver driver failure)
    | world, .unregisterProtocol protocol => some (world.unregisterProtocol protocol)
    | world, .connectProtocol protocol failure =>
      some (world.connectProtocol protocol failure)
    | world, .disconnectProtocol protocol => some (world.disconnectProtocol protocol)

@[simp]
theorem subscriptions_markUp (world : NativeWorld) (driver : NativeProtocolDriver) :
    (world.markUp driver).subscriptions = world.subscriptions := rfl

@[simp]
theorem subscriptions_markDown (world : NativeWorld) (driver : NativeProtocolDriver) :
    (world.markDown driver).subscriptions = world.subscriptions := rfl

@[simp]
theorem subscriptions_recordConnectError (world : NativeWorld) (protocol error : String) :
    (world.recordConnectError protocol error).subscriptions = world.subscriptions := rfl

variable {world : NativeWorld} {driver : NativeProtocolDriver} {protocol : String}
    {attempts : List (NativeProtocolDriver × Option String)} {adapter : SupremeNativeAdapter}

@[simp]
theorem mem_up_markUp {other : NativeProtocolDriver} :
    other ∈ (world.markUp driver).up ↔ other = driver ∨ other ∈ world.up := by
  simp [markUp]

@[simp]
theorem mem_up_markDown {other : NativeProtocolDriver} :
    other ∈ (world.markDown driver).up ↔ other ∈ world.up ∧ other ≠ driver := by
  simp [markDown]

theorem subscriptions_wire (world : NativeWorld) (driver other : NativeProtocolDriver) :
    (world.wire driver).subscriptions other = world.subscriptions other ++
        if driver = other then [⟨world.issued, driver⟩] else [] := by
  by_cases same : driver = other <;>
    simp [subscriptions, wire, List.filter_append, same]

theorem unsubscribe_spec (world : NativeWorld) (protocol : String) :
    (∀ subscription, subscription ∈ (world.unsubscribe protocol).live ↔ subscription ∈ world.live ∧
        world.adapter.unsubByProtocol.get protocol ≠ some subscription) ∧
    (∀ query, (world.unsubscribe protocol).adapter.unsubByProtocol.get query =
      if query = protocol then none else world.adapter.unsubByProtocol.get query) ∧
    (world.unsubscribe protocol).live.Sublist world.live := by
  cases found : world.adapter.unsubByProtocol.get protocol with
  | none =>
    have unchanged : world.unsubscribe protocol = world := by
      simp only [unsubscribe, found]
    rw [unchanged]
    refine ⟨by simp, ?_, List.Sublist.refl _⟩
    intro query
    by_cases same : query = protocol
    · rw [if_pos same, same, found]
    · rw [if_neg same]
  | some held =>
    simp only [unsubscribe, found]
    refine ⟨?_, by simp, List.filter_sublist⟩
    intro subscription
    simp only [List.mem_filter, decide_eq_true_eq, ne_eq, some.injEq]
    exact and_congr_right fun _ => not_congr eq_comm

theorem unsubscribe_frame (world : NativeWorld) (protocol : String) : world.unsubscribe protocol =
      { world with
        adapter := { world.adapter with
          unsubByProtocol := (world.unsubscribe protocol).adapter.unsubByProtocol }
        live := (world.unsubscribe protocol).live } := by
  simp only [unsubscribe]
  cases world.adapter.unsubByProtocol.get protocol <;> rfl

theorem releaseProtocol_eq_some {next : NativeWorld}
    (released : world.releaseProtocol protocol = some (driver, next)) :
    world.adapter.driverFor protocol = some driver ∧ next = { world with
        adapter := { world.adapter with
          drivers := world.adapter.withoutDriver protocol } }.unsubscribe protocol := by
  simp only [releaseProtocol] at released
  split at released
  · simp at released
  · rename_i found
    simp only [some.injEq, Prod.mk.injEq] at released
    rcases released with ⟨rfl, rfl⟩
    exact ⟨found, rfl⟩

theorem releaseProtocol_eq_none : world.releaseProtocol protocol = none ↔
      world.adapter.driverFor protocol = none := by
  simp only [releaseProtocol]
  cases world.adapter.driverFor protocol <;> simp

theorem isObserved_cacheState {event : BackendStateEvent} (observed : event.isObserved = true) :
    (adapter.cacheState event).states.get (stateKey event.deviceId event.capability) =
      some event.state := by
  simp [SupremeNativeAdapter.cacheState, observed]

@[simp]
theorem listeners_cacheState (adapter : SupremeNativeAdapter) (event : BackendStateEvent) :
    (adapter.cacheState event).listeners = adapter.listeners := by
  simp only [SupremeNativeAdapter.cacheState]
  split <;> rfl

theorem foldl_hearState_deliveries (event : BackendStateEvent) (subscriptions : List Subscription)
    (heard : NativeWorld × List (ListenerRef × BackendStateEvent)) :
    (subscriptions.foldl (hearState event) heard).2 = heard.2 ++ subscriptions.flatMap fun _ =>
        heard.1.adapter.listeners.keys.map fun listener => (listener, event) := by
  induction subscriptions generalizing heard with
  | nil => simp
  | cons head rest ih =>
    simp [ih, hearState, listeners_cacheState]

theorem count_emitState (world : NativeWorld) (driver : NativeProtocolDriver)
    (event : BackendStateEvent) {listener : ListenerRef}
    (registered : listener ∈ world.adapter.listeners.keys) :
    (world.emitState driver event).2.count (listener, event) =
      (world.subscriptions driver).length := by
  have once : (world.adapter.listeners.keys.map
      fun other => (other, event)).count (listener, event) = 1 := by
    apply List.count_eq_one_of_mem
    · apply List.Nodup.map _ world.adapter.listeners.nodup
      intro left right equal
      exact congrArg Prod.fst equal
    · exact List.mem_map_of_mem registered
  simp only [emitState, foldl_hearState_deliveries, List.nil_append]
  induction world.subscriptions driver with
  | nil => rfl
  | cons head rest ih =>
    rw [List.flatMap_cons, List.count_append, ih, once, List.length_cons, Nat.add_comm]

/--
Protocols are distinct, every live subscription is the one that the table holds
for the protocol of its driver, and its driver is registered.
-/
structure Tracked (world : NativeWorld) : Prop where
  distinct : (world.adapter.drivers.map NativeProtocolDriver.protocol).Nodup
  held : ∀ subscription ∈ world.live, subscription.driver ∈ world.adapter.drivers ∧
      world.adapter.unsubByProtocol.get subscription.driver.protocol = some subscription
  named : ∀ protocol subscription, world.adapter.unsubByProtocol.get protocol = some subscription →
      subscription.driver.protocol = protocol
  nodup : world.live.Nodup
  fresh : ∀ subscription ∈ world.live, subscription.serial < world.issued

theorem tracked_create {drivers : List NativeProtocolDriver}
    {listeners inputListeners : OrderedSet ListenerRef}
    (distinct : (drivers.map NativeProtocolDriver.protocol).Nodup) :
    Tracked (create drivers listeners inputListeners) := by
  refine ⟨distinct, ?_, ?_, List.nodup_nil, ?_⟩ <;>
    simp [create, SupremeNativeAdapter.create]

theorem Tracked.congr {next : NativeWorld} (tracked : Tracked world)
    (drivers : next.adapter.drivers = world.adapter.drivers)
    (table : next.adapter.unsubByProtocol = world.adapter.unsubByProtocol)
    (live : next.live = world.live) (issued : next.issued = world.issued) :
    Tracked next := by
  rcases tracked with ⟨distinct, held, named, nodup, fresh⟩
  constructor <;> simpa only [drivers, table, live, issued]

theorem Tracked.driver_eq (tracked : Tracked world)
    {left right : NativeProtocolDriver} (leftMember : left ∈ world.adapter.drivers)
    (rightMember : right ∈ world.adapter.drivers)
    (equal : left.protocol = right.protocol) : left = right :=
  List.inj_on_of_nodup_map tracked.distinct leftMember rightMember equal

theorem Tracked.length_subscriptions_le (tracked : Tracked world)
    (driver : NativeProtocolDriver) : (world.subscriptions driver).length ≤ 1 := by
  have nodup : (world.subscriptions driver).Nodup := tracked.nodup.filter _
  match found : world.subscriptions driver with
  | [] => simp
  | [_] => simp
  | first :: second :: rest =>
    have heldBy : ∀ subscription ∈ world.subscriptions driver,
        world.adapter.unsubByProtocol.get driver.protocol = some subscription := by
      intro subscription member
      simp only [subscriptions, List.mem_filter, decide_eq_true_eq] at member
      rcases member with ⟨member, rfl⟩
      exact (tracked.held subscription member).2
    have equal : first = second :=
      some.inj ((heldBy first (by simp [found])).symm.trans
        (heldBy second (by simp [found])))
    simp [found, equal] at nodup

theorem Tracked.wire (tracked : Tracked world) (registered : driver ∈ world.adapter.drivers)
    (unsubscribed : world.subscriptions driver = []) : Tracked (world.wire driver) := by
  have others : ∀ subscription ∈ world.live, subscription.driver.protocol ≠ driver.protocol := by
    intro subscription member equal
    have same : subscription.driver = driver :=
      tracked.driver_eq (tracked.held subscription member).1 registered equal
    have found : subscription ∈ world.subscriptions driver := by
      simp [subscriptions, member, same]
    simp [unsubscribed] at found
  constructor
  · exact tracked.distinct
  · intro subscription member
    simp only [NativeWorld.wire, List.mem_append, List.mem_singleton] at member ⊢
    rcases member with old | rfl
    · refine ⟨(tracked.held subscription old).1, ?_⟩
      rw [OrderedMap.get_set, if_neg (others subscription old)]
      exact (tracked.held subscription old).2
    · exact ⟨registered, by simp⟩
  · intro protocol subscription found
    simp only [NativeWorld.wire, OrderedMap.get_set] at found
    split at found
    · rename_i same
      cases found
      exact same.symm
    · exact tracked.named protocol subscription found
  · simp only [NativeWorld.wire, ← List.concat_eq_append]
    refine List.Nodup.concat ?_ tracked.nodup
    intro member
    exact Nat.lt_irrefl _ (tracked.fresh _ member)
  · intro subscription member
    simp only [NativeWorld.wire, List.mem_append, List.mem_singleton] at member ⊢
    rcases member with old | rfl
    · exact Nat.lt_succ_of_lt (tracked.fresh subscription old)
    · exact Nat.lt_succ_self _

theorem mem_withoutDriver (distinct : (adapter.drivers.map NativeProtocolDriver.protocol).Nodup) :
    driver ∈ adapter.withoutDriver protocol ↔
      driver ∈ adapter.drivers ∧ driver.protocol ≠ protocol := by
  simp only [SupremeNativeAdapter.withoutDriver]
  generalize adapter.drivers = drivers at distinct ⊢
  induction drivers with
  | nil => simp
  | cons head rest ih =>
    simp only [List.map_cons, List.nodup_cons] at distinct
    by_cases same : head.protocol = protocol
    · subst same
      have elsewhere : ∀ other ∈ rest, other.protocol ≠ head.protocol :=
        fun other member equal => distinct.1 (equal ▸ List.mem_map_of_mem member)
      simp only [decide_true, List.eraseP_cons_of_pos, List.mem_cons]
      constructor
      · intro member
        exact ⟨.inr member, elsewhere driver member⟩
      · rintro ⟨rfl | member, differs⟩
        · exact (differs rfl).elim
        · exact member
    · rw [List.eraseP_cons_of_neg (by simpa using same), List.mem_cons, List.mem_cons,
        ih distinct.2]
      constructor
      · rintro (rfl | ⟨member, differs⟩)
        · exact ⟨.inl rfl, same⟩
        · exact ⟨.inr member, differs⟩
      · rintro ⟨rfl | member, differs⟩
        · exact .inl rfl
        · exact .inr ⟨member, differs⟩

/-- What the first segment of `unregisterProtocol` leaves behind. -/
theorem Tracked.release {next : NativeWorld} (tracked : Tracked world)
    (released : world.releaseProtocol protocol = some (driver, next)) :
    Tracked next ∧ (∀ other, other ∈ next.adapter.drivers ↔
        other ∈ world.adapter.drivers ∧ other.protocol ≠ protocol) ∧
      (∀ other, other.protocol ≠ protocol → next.subscriptions other = world.subscriptions other) ∧
      next.up = world.up ∧ next.adapter.connected = world.adapter.connected := by
  rcases releaseProtocol_eq_some released with ⟨_, rfl⟩
  rcases unsubscribe_spec
    { world with
      adapter := { world.adapter with
        drivers := world.adapter.withoutDriver protocol } } protocol with
    ⟨live, table, sublist⟩
  rw [unsubscribe_frame]
  refine ⟨⟨?_, ?_, ?_, tracked.nodup.sublist sublist, ?_⟩, ?_, ?_, rfl, rfl⟩
  · exact tracked.distinct.sublist (List.eraseP_sublist.map _)
  · intro subscription member
    rcases (live subscription).mp member with ⟨member, ended⟩
    rcases tracked.held subscription member with ⟨registered, found⟩
    have differs : subscription.driver.protocol ≠ protocol := by
      intro equal
      exact ended (equal ▸ found)
    refine ⟨(mem_withoutDriver tracked.distinct).mpr ⟨registered, differs⟩, ?_⟩
    rw [table, if_neg differs]
    exact found
  · intro query subscription found
    rw [table] at found
    split at found
    · simp at found
    · exact tracked.named query subscription found
  · intro subscription member
    exact tracked.fresh subscription ((live subscription).mp member).1
  · intro other
    exact mem_withoutDriver tracked.distinct
  · intro other differs
    simp only [subscriptions, unsubscribe]
    cases found : world.adapter.unsubByProtocol.get protocol with
    | none => rfl
    | some held =>
      rw [List.filter_filter]
      apply List.filter_congr
      intro subscription _
      simp only [Bool.and_eq_left_iff_imp, decide_eq_true_eq]
      rintro rfl rfl
      exact differs (tracked.named protocol subscription found)

theorem Tracked.unregister (tracked : Tracked world) (protocol : String) :
    Tracked (world.unregisterProtocol protocol) ∧
      (∀ other, other ∈ (world.unregisterProtocol protocol).adapter.drivers ↔
        other ∈ world.adapter.drivers ∧ other.protocol ≠ protocol) ∧
      (∀ other, other.protocol ≠ protocol →
        (world.unregisterProtocol protocol).subscriptions other = world.subscriptions other) ∧
      (∀ other, other ∈ (world.unregisterProtocol protocol).up → other ∈ world.up) ∧
      (world.unregisterProtocol protocol).adapter.connected = world.adapter.connected := by
  simp only [unregisterProtocol]
  cases released : world.releaseProtocol protocol with
  | none =>
    have absent := SupremeNativeAdapter.driverFor_eq_none_iff.mp
      (releaseProtocol_eq_none.mp released)
    refine ⟨tracked, ?_, fun _ _ => rfl, fun _ member => member, rfl⟩
    intro other
    exact ⟨fun member => ⟨member, absent other member⟩, fun both => both.1⟩
  | some result =>
    rcases result with ⟨driver, next⟩
    rcases tracked.release released with ⟨kept, drivers, subscriptions, up, connected⟩
    refine ⟨kept.congr rfl rfl rfl rfl, drivers, subscriptions, ?_, connected⟩
    intro other member
    rw [← up]
    exact (mem_up_markDown.mp member).1

theorem Tracked.subscriptions_eq_nil (tracked : Tracked world)
    (absent : driver ∉ world.adapter.drivers) :
    world.subscriptions driver = [] := by
  simp only [subscriptions, List.filter_eq_nil_iff, decide_eq_true_eq]
  rintro subscription member rfl
  exact absent (tracked.held subscription member).1

theorem wireDriver_frame (world : NativeWorld) (attempt : NativeProtocolDriver × Option String) :
    (world.wireDriver attempt).adapter.drivers = world.adapter.drivers ∧
      (world.wireDriver attempt).adapter.connected = world.adapter.connected := by
  simp only [wireDriver]
  cases attempt.2 <;> exact ⟨rfl, rfl⟩

theorem subscriptions_wireDriver (world : NativeWorld)
    (attempt : NativeProtocolDriver × Option String) (driver : NativeProtocolDriver) :
    ((world.wireDriver attempt).subscriptions driver).length = (world.subscriptions driver).length +
        if attempt = (driver, none) then 1 else 0 := by
  rcases attempt with ⟨attempted, failure⟩
  cases failure with
  | some error => simp [wireDriver]
  | none =>
    by_cases same : attempted = driver <;>
      simp [wireDriver, subscriptions_wire, same]

theorem mem_up_wireDriver (world : NativeWorld)
    (attempt : NativeProtocolDriver × Option String) (driver : NativeProtocolDriver) :
    driver ∈ (world.wireDriver attempt).up ↔
      attempt = (driver, none) ∨ (driver ∈ world.up ∧ driver ≠ attempt.1) ∨
        (driver ∈ world.up ∧ attempt.2 = none) := by
  rcases attempt with ⟨attempted, failure⟩
  cases failure with
  | some error => simp [wireDriver, recordConnectError]
  | none =>
    simp only [wireDriver, wire, mem_up_markUp, Prod.mk.injEq, and_true]
    grind

theorem Tracked.wireDriver (tracked : Tracked world)
    {attempt : NativeProtocolDriver × Option String}
    (registered : attempt.1 ∈ world.adapter.drivers)
    (unsubscribed : attempt.2 = none → world.subscriptions attempt.1 = []) :
    Tracked (world.wireDriver attempt) := by
  rcases attempt with ⟨attempted, failure⟩
  cases failure with
  | some error => exact tracked.congr rfl rfl rfl rfl
  | none =>
    have up : Tracked (world.markUp attempted) := tracked.congr rfl rfl rfl rfl
    exact up.wire registered (unsubscribed rfl)

theorem foldl_wireDriver_frame (attempts : List (NativeProtocolDriver × Option String))
    (world : NativeWorld) :
    (attempts.foldl wireDriver world).adapter.drivers = world.adapter.drivers ∧
      (attempts.foldl wireDriver world).adapter.connected = world.adapter.connected := by
  induction attempts generalizing world with
  | nil => exact ⟨rfl, rfl⟩
  | cons attempt rest ih =>
    rcases ih (world.wireDriver attempt) with ⟨drivers, connected⟩
    rcases wireDriver_frame world attempt with ⟨sameDrivers, sameConnected⟩
    exact ⟨drivers.trans sameDrivers, connected.trans sameConnected⟩

theorem subscriptions_foldl_wireDriver
    (attempts : List (NativeProtocolDriver × Option String)) (world : NativeWorld)
    (driver : NativeProtocolDriver) :
    ((attempts.foldl wireDriver world).subscriptions driver).length =
      (world.subscriptions driver).length + attempts.count (driver, none) := by
  induction attempts generalizing world with
  | nil => simp
  | cons attempt rest ih =>
    rw [List.foldl_cons, ih, subscriptions_wireDriver, List.count_cons, Nat.add_assoc,
      Nat.add_comm (if attempt = (driver, none) then 1 else 0)]
    simp

theorem mem_up_foldl_wireDriver (once : (attempts.map Prod.fst).Nodup) (world : NativeWorld)
    (driver : NativeProtocolDriver) :
    driver ∈ (attempts.foldl wireDriver world).up ↔ (driver, none) ∈ attempts ∨
        (driver ∈ world.up ∧ driver ∉ attempts.map Prod.fst) := by
  induction attempts generalizing world with
  | nil => simp
  | cons attempt rest ih =>
    simp only [List.map_cons, List.nodup_cons] at once
    rw [List.foldl_cons, ih once.2, mem_up_wireDriver]
    rcases attempt with ⟨attempted, failure⟩
    simp only [List.mem_cons, List.map_cons, not_or, Prod.mk.injEq]
    have absent : ∀ outcome, (attempted, outcome) ∉ rest := by
      intro outcome member
      exact once.1 (List.mem_map.mpr ⟨_, member, rfl⟩)
    grind

theorem Tracked.foldl_wireDriver (once : (attempts.map Prod.fst).Nodup) (tracked : Tracked world)
    (registered : ∀ attempt ∈ attempts, attempt.1 ∈ world.adapter.drivers)
    (unsubscribed : ∀ driver, (driver, none) ∈ attempts → world.subscriptions driver = []) :
    Tracked (attempts.foldl NativeWorld.wireDriver world) := by
  induction attempts generalizing world with
  | nil => exact tracked
  | cons attempt rest ih =>
    simp only [List.map_cons, List.nodup_cons] at once
    simp only [List.mem_cons, forall_eq_or_imp] at registered
    have first : Tracked (world.wireDriver attempt) := by
      apply tracked.wireDriver registered.1
      intro ended
      exact unsubscribed attempt.1 (by simp [← ended])
    refine ih once.2 first ?_ ?_
    · intro other member
      rw [(wireDriver_frame world attempt).1]
      exact registered.2 other member
    · intro driver member
      have differs : attempt ≠ (driver, none) := by
        rintro rfl
        exact once.1 (List.mem_map_of_mem (f := Prod.fst) member)
      apply List.length_eq_zero_iff.mp
      rw [subscriptions_wireDriver, if_neg differs, unsubscribed driver (.tail _ member)]
      rfl

/-! ## Every driver that is up feeds the adapter once -/

/--
The driver has exactly one live subscription: what it observes is cached and
every listener hears it exactly once.
-/
def ReportsOnce (world : NativeWorld) (driver : NativeProtocolDriver) : Prop :=
  (world.subscriptions driver).length = 1 ∧ ∀ event : BackendStateEvent, event.isObserved = true →
      (world.emitState driver event).1.adapter.states.get
          (stateKey event.deviceId event.capability) = some event.state ∧
        ∀ listener ∈ world.adapter.listeners.keys,
          (world.emitState driver event).2.count (listener, event) = 1

def FedOnce (world : NativeWorld) : Prop :=
  world.adapter.connected = true →
    ∀ driver ∈ world.adapter.drivers, driver ∈ world.up → world.ReportsOnce driver

/--
A connect attempt ends well in the right place: within `connect` only for a
driver that has no subscription yet, and within `connectProtocol`, while the
adapter is connected, only for a driver that has one.
-/
def WiresOnce (world : NativeWorld) : Operation → Prop
  | .connect attempts =>
    world.adapter.connected = false →
      ∀ driver, (driver, none) ∈ attempts → world.subscriptions driver = []
  | .connectProtocol protocol none =>
    world.adapter.connected = true → ∀ driver, world.adapter.driverFor protocol = some driver →
        world.subscriptions driver ≠ []
  | _ => True

theorem reportsOnce_iff : world.ReportsOnce driver ↔ (world.subscriptions driver).length = 1 := by
  constructor
  · exact fun reports => reports.1
  · intro single
    refine ⟨single, ?_⟩
    intro event observed
    refine ⟨?_, ?_⟩
    · rcases List.length_eq_one_iff.mp single with ⟨subscription, only⟩
      simp only [emitState, only, List.foldl_cons, List.foldl_nil, hearState]
      exact isObserved_cacheState observed
    · intro listener registered
      rw [count_emitState world driver event registered, single]

theorem fedOnce_iff : FedOnce world ↔ (world.adapter.connected = true →
        ∀ driver ∈ world.adapter.drivers, driver ∈ world.up →
          (world.subscriptions driver).length = 1) := by
  simp only [FedOnce, reportsOnce_iff]

theorem fedOnce_connect_iff (tracked : Tracked world) (fed : FedOnce world)
    (enabled : world.adapter.connected = true ∨
      (attempts.map Prod.fst).isPerm world.adapter.drivers = true) :
    FedOnce (world.connect attempts) ↔ world.WiresOnce (.connect attempts) := by
  simp only [connect, WiresOnce]
  by_cases connected : world.adapter.connected = true
  · simp [connected, fed]
  · have disconnected : world.adapter.connected = false := by simpa using connected
    have every : (attempts.map Prod.fst).Perm world.adapter.drivers :=
      List.isPerm_iff.mp (enabled.resolve_left connected)
    have once : (attempts.map Prod.fst).Nodup :=
      every.nodup_iff.mpr tracked.distinct.of_map
    rw [if_neg connected, fedOnce_iff]
    simp only [disconnected, forall_true_left]
    have count : ∀ driver, (driver, none) ∈ attempts → attempts.count (driver, none) = 1 :=
      fun driver member => List.count_eq_one_of_mem once.of_map member
    have drivers := (foldl_wireDriver_frame attempts world).1
    constructor
    · intro single driver member
      have registered : driver ∈ world.adapter.drivers :=
        every.subset (List.mem_map.mpr ⟨_, member, rfl⟩)
      have length := single rfl driver (by simpa only [setConnected, drivers] using registered)
        ((mem_up_foldl_wireDriver once world driver).mpr (.inl member))
      change ((attempts.foldl wireDriver world).subscriptions driver).length = 1 at length
      rw [subscriptions_foldl_wireDriver, count driver member] at length
      exact List.length_eq_zero_iff.mp (by omega)
    · intro unsubscribed _ driver registered up
      change ((attempts.foldl wireDriver world).subscriptions driver).length = 1
      rcases (mem_up_foldl_wireDriver once world driver).mp up with member | ⟨_, untried⟩
      · rw [subscriptions_foldl_wireDriver, count driver member, unsubscribed driver member]
        rfl
      · refine (untried (every.symm.subset ?_)).elim
        simpa only [setConnected, drivers] using registered

theorem fedOnce_registerDriver (tracked : Tracked world)
    (fed : FedOnce world) (driver : NativeProtocolDriver) (failure : Option String) :
    FedOnce (world.registerDriver driver failure) := by
  rcases tracked.unregister driver.protocol with ⟨kept, drivers, subscriptions, up, connected⟩
  rw [fedOnce_iff] at fed ⊢
  simp only [registerDriver]
  rcases wireDriver_frame ((world.unregisterProtocol driver.protocol).push driver)
      (driver, failure) with
    ⟨sameDrivers, sameConnected⟩
  rw [sameDrivers, sameConnected]
  intro isConnected other registered isUp
  rw [subscriptions_wireDriver]
  change ((world.unregisterProtocol driver.protocol).subscriptions other).length + _ = 1
  simp only [push, List.mem_append, List.mem_singleton] at registered isConnected
  rw [mem_up_wireDriver] at isUp
  by_cases same : other = driver
  · subst same
    have absent : (world.unregisterProtocol other.protocol).subscriptions other = [] :=
      kept.subscriptions_eq_nil fun member => ((drivers other).mp member).2 rfl
    have ended : failure = none := by
      rcases isUp with attempted | ⟨_, differs⟩ | ⟨_, ended⟩
      · exact congrArg Prod.snd attempted
      · exact (differs rfl).elim
      · exact ended
    simp [absent, ended]
  · have old := (drivers other).mp (registered.resolve_right same)
    have wasUp : other ∈ world.up := by
      apply up
      rcases isUp with attempted | ⟨member, _⟩ | ⟨member, _⟩
      · exact (same (congrArg Prod.fst attempted).symm).elim
      · exact member
      · exact member
    rw [subscriptions other old.2, fed (connected ▸ isConnected) other old.1 wasUp]
    have differs : ¬ driver = other := fun equal => same equal.symm
    simp [differs]

theorem fedOnce_unregisterProtocol (tracked : Tracked world)
    (fed : FedOnce world) (protocol : String) :
    FedOnce (world.unregisterProtocol protocol) := by
  rcases tracked.unregister protocol with ⟨_, drivers, subscriptions, up, connected⟩
  rw [fedOnce_iff] at fed ⊢
  intro isConnected other registered isUp
  have old := (drivers other).mp registered
  rw [subscriptions other old.2]
  exact fed (connected ▸ isConnected) other old.1 (up other isUp)

theorem fedOnce_connectProtocol_iff (tracked : Tracked world)
    (fed : FedOnce world) (protocol : String) (failure : Option String) :
    FedOnce (world.connectProtocol protocol failure) ↔
      world.WiresOnce (.connectProtocol protocol failure) := by
  simp only [connectProtocol]
  rw [fedOnce_iff] at fed
  cases failure with
  | some error =>
    simp only [WiresOnce, iff_true]
    rw [fedOnce_iff]
    split
    · exact fed
    · intro connected driver registered up
      exact fed connected driver registered (mem_up_markDown.mp up).1
  | none =>
    simp only [WiresOnce]
    cases found : world.adapter.driverFor protocol with
    | none => simpa [fedOnce_iff] using fed
    | some driver =>
      have registered : driver ∈ world.adapter.drivers :=
        (SupremeNativeAdapter.driverFor_eq_some found).1
      simp only [fedOnce_iff, some.injEq, forall_eq']
      constructor
      · intro single connected empty
        have length := single connected driver registered
          (mem_up_markUp.mpr (.inl rfl))
        change (world.subscriptions driver).length = 1 at length
        simp [empty] at length
      · intro subscribed connected other member up
        change (world.subscriptions other).length = 1
        rcases mem_up_markUp.mp up with rfl | wasUp
        · have atLeast := List.length_pos_iff.mpr (subscribed connected)
          have atMost := tracked.length_subscriptions_le other
          omega
        · exact fed connected other member wasUp

theorem fedOnce_step_iff (world : NativeWorld) (operation : Operation)
    (next : NativeWorld) (tracked : Tracked world) (fed : FedOnce world)
    (step : machine.step world operation = some next) :
    FedOnce next ↔ world.WiresOnce operation := by
  cases operation with
  | connect attempts =>
    simp only [machine, Option.ite_none_right_eq_some, some.injEq] at step
    rcases step with ⟨enabled, rfl⟩
    exact fedOnce_connect_iff tracked fed enabled
  | disconnect =>
    simp only [machine, some.injEq] at step
    subst step
    simp [FedOnce, disconnect, setConnected, WiresOnce]
  | registerDriver driver failure =>
    simp only [machine, some.injEq] at step
    subst step
    exact iff_of_true (fedOnce_registerDriver tracked fed driver failure) trivial
  | unregisterProtocol protocol =>
    simp only [machine, some.injEq] at step
    subst step
    exact iff_of_true (fedOnce_unregisterProtocol tracked fed protocol) trivial
  | connectProtocol protocol failure =>
    simp only [machine, some.injEq] at step
    subst step
    exact fedOnce_connectProtocol_iff tracked fed protocol failure
  | disconnectProtocol protocol =>
    simp only [machine, some.injEq] at step
    subst step
    refine iff_of_true ?_ trivial
    rw [fedOnce_iff] at fed ⊢
    simp only [disconnectProtocol]
    split
    · exact fed
    · intro connected driver registered up
      exact fed connected driver registered (mem_up_markDown.mp up).1

theorem tracked_unsubscribeAll (tracked : Tracked world) : Tracked world.unsubscribeAll := by
  have nothing : world.unsubscribeAll.live = [] := by
    simp only [unsubscribeAll, List.filter_eq_nil_iff, decide_eq_true_eq, not_not]
    intro subscription member
    exact OrderedMap.mem_values_iff.mpr ⟨_, (tracked.held subscription member).2⟩
  refine ⟨tracked.distinct, by simp [nothing], ?_, by simp [nothing], by simp [nothing]⟩
  simp [unsubscribeAll]

theorem foldl_markDown_frame (drivers : List NativeProtocolDriver) (world : NativeWorld) :
    (drivers.foldl markDown world).adapter = world.adapter ∧
      (drivers.foldl markDown world).live = world.live ∧
      (drivers.foldl markDown world).issued = world.issued := by
  induction drivers generalizing world with
  | nil => exact ⟨rfl, rfl, rfl⟩
  | cons driver rest ih => exact ih (world.markDown driver)

theorem Tracked.push (tracked : Tracked world)
    (fresh : ∀ other ∈ world.adapter.drivers, other.protocol ≠ driver.protocol) :
    Tracked (world.push driver) := by
  refine ⟨?_, ?_, tracked.named, tracked.nodup, tracked.fresh⟩
  · have protocols :
        (world.push driver).adapter.drivers.map NativeProtocolDriver.protocol =
          (world.adapter.drivers.map NativeProtocolDriver.protocol).concat
            driver.protocol := by
      simp [NativeWorld.push]
    rw [protocols]
    refine List.Nodup.concat ?_ tracked.distinct
    intro member
    rcases List.mem_map.mp member with ⟨other, registered, equal⟩
    exact fresh other registered equal
  · intro subscription member
    rcases tracked.held subscription member with ⟨registered, held⟩
    exact ⟨List.mem_append_left _ registered, held⟩

theorem tracked_step (world : NativeWorld) (operation : Operation) (next : NativeWorld)
    (tracked : Tracked world) (wires : world.WiresOnce operation)
    (step : machine.step world operation = some next) : Tracked next := by
  cases operation with
  | connect attempts =>
    simp only [machine, Option.ite_none_right_eq_some, some.injEq] at step
    rcases step with ⟨enabled, rfl⟩
    simp only [connect]
    by_cases connected : world.adapter.connected = true
    · rw [if_pos connected]
      exact tracked
    · have every : (attempts.map Prod.fst).Perm world.adapter.drivers :=
        List.isPerm_iff.mp (enabled.resolve_left connected)
      have once : (attempts.map Prod.fst).Nodup :=
        every.nodup_iff.mpr tracked.distinct.of_map
      have kept : Tracked (attempts.foldl wireDriver world) := by
        apply tracked.foldl_wireDriver once
        · intro attempt member
          exact every.subset (List.mem_map_of_mem member)
        · exact wires (by simpa using connected)
      rw [if_neg connected]
      exact kept.congr rfl rfl rfl rfl
  | disconnect =>
    simp only [machine, some.injEq] at step
    subst step
    rcases foldl_markDown_frame world.adapter.drivers world.unsubscribeAll with
      ⟨adapter, live, issued⟩
    refine (tracked_unsubscribeAll tracked).congr ?_ ?_ ?_ ?_ <;>
      simp [disconnect, setConnected, adapter, live, issued]
  | registerDriver driver failure =>
    simp only [machine, some.injEq] at step
    subst step
    rcases tracked.unregister driver.protocol with ⟨kept, drivers, _⟩
    have absent : driver ∉ (world.unregisterProtocol driver.protocol).adapter.drivers :=
      fun member => ((drivers driver).mp member).2 rfl
    have pushed : Tracked ((world.unregisterProtocol driver.protocol).push driver) :=
      kept.push fun other member => ((drivers other).mp member).2
    exact pushed.wireDriver (by simp [push]) fun _ => kept.subscriptions_eq_nil absent
  | unregisterProtocol protocol =>
    simp only [machine, some.injEq] at step
    subst step
    exact (tracked.unregister protocol).1
  | connectProtocol protocol failure =>
    simp only [machine, some.injEq] at step
    subst step
    simp only [connectProtocol]
    split
    · exact tracked
    · split <;> exact tracked.congr rfl rfl rfl rfl
  | disconnectProtocol protocol =>
    simp only [machine, some.injEq] at step
    subst step
    simp only [disconnectProtocol]
    split
    · exact tracked
    · exact tracked.congr rfl rfl rfl rfl

/-- The drivers an adapter is built with, each for another protocol. -/
structure BootDrivers where
  drivers : List NativeProtocolDriver
  distinct : (drivers.map NativeProtocolDriver.protocol).Nodup

/--
In every sequence of operations, with drivers whose connect succeeds or fails
at every attempt, every driver that is up feeds the connected adapter exactly
once, exactly if every successful attempt wires once.
-/
theorem fedOnce_iff_wiresOnce (boot : BootDrivers)
    (listeners inputListeners : OrderedSet ListenerRef) (operations : List Operation) :
    machine.Throughout FedOnce (create boot.drivers listeners inputListeners) operations ↔
      machine.Guarded WiresOnce (create boot.drivers listeners inputListeners)
        operations := by
  apply Machine.throughout_iff_guarded Tracked
  · exact fedOnce_step_iff
  · intro world operation next tracked _ wires step
    exact tracked_step world operation next tracked wires step
  · exact tracked_create boot.distinct
  · simp [FedOnce, create, SupremeNativeAdapter.create]

/--
A driver whose connect fails at boot and that is reconnected later is up and
registered at a connected adapter, but has no subscription.
-/
theorem reconnected_driver_is_not_subscribed :
    ¬ machine.Throughout FedOnce (create [⟨0, "knx", false, true⟩] .empty .empty)
      [.connect [(⟨0, "knx", false, true⟩, some "ETIMEDOUT")],
        .connectProtocol "knx" none] := by
  intro throughout
  have fed := Machine.property_of_throughout throughout rfl
  have single := fedOnce_iff.mp fed rfl ⟨0, "knx", false, true⟩ (by decide) (by decide)
  revert single
  decide

end NativeWorld

end SupremeOs.IntegrationLayer
