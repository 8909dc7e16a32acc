import SupremeOs.IntegrationLayer.NativeAdapter
import SupremeOs.Support.Interleaving

/-!
# Overlapping operations of the native adapter

The operations of the adapter interleaved at their await points.  A driver's
connect, begun by `wireDriver`, is a pending call of its own and may end at any
later moment; `connect` itself stops waiting at any moment, since its boot
budget may be used up.

The last part determines exactly in which runs no driver that is not
registered has a live subscription.
-/

namespace SupremeOs.IntegrationLayer

open Support List Option

namespace NativeAdapterRuns

inductive Request where
  | connect
  | disconnect
  | registerDriver (driver : NativeProtocolDriver)
  | unregisterProtocol (protocol : String)
  | connectProtocol (protocol : String)
  | disconnectProtocol (protocol : String)

/-- How the call of a driver ends. -/
inductive Reply where
  | resolved
  | rejected (error : String)

/-- The awaits at which an operation is suspended. -/
inductive Call where
  /-- `wireDriver` awaits the connect of a driver; it has read the epoch. -/
  | wiring (driver : NativeProtocolDriver) (epoch : Nat)
  /-- `connect` awaits all connects or the end of its budget. -/
  | booting
  /-- `disconnect` awaits the disconnect of the driver at a position. -/
  | disconnecting (position : Nat) (driver : NativeProtocolDriver)
  /-- `unregisterProtocol` awaits the disconnect of the removed driver. -/
  | releasing (removed : NativeProtocolDriver) (protocol : String)
      (replacement : Option NativeProtocolDriver)
  /-- `registerDriver` has removed the driver before it. -/
  | pushing (driver : NativeProtocolDriver)
  /-- `connectProtocol` awaits the connect of a driver. -/
  | reconnecting (driver : NativeProtocolDriver) (protocol : String)
  /-- `disconnectProtocol` awaits the disconnect of a driver. -/
  | parting (driver : NativeProtocolDriver)

/-- The adapter and its drivers; `retired` are the protocols that were unregistered
and not registered again since. -/
structure World where
  native : NativeWorld
  retired : List String

/-- One turn of the loop of `disconnect`, which reads the list as it is now. -/
def disconnectFrom (native : NativeWorld) (position : Nat) : NativeWorld × List Call :=
  match native.adapter.drivers[position]? with
  | some driver => (native, [.disconnecting position driver])
  | none => (native.setConnected false, [])

def startCall (world : World) : Request → World × List Call
  | .connect =>
    if world.native.adapter.connected then (world, [])
    else
      (world, (world.native.adapter.drivers.map
        fun driver => .wiring driver world.native.adapter.epoch) ++ [.booting])
  | .disconnect =>
    let (native, more) := disconnectFrom world.native.unsubscribeAll 0
    ({ world with native }, more)
  | .registerDriver driver =>
    let retired := world.retired.filter fun other => decide (other ≠ driver.protocol)
    match world.native.releaseProtocol driver.protocol with
    | none => ({ world with retired }, [.pushing driver])
    | some (removed, native) =>
      ({ native, retired }, [.releasing removed driver.protocol (some driver)])
  | .unregisterProtocol protocol =>
    let retired := protocol :: world.retired
    match world.native.releaseProtocol protocol with
    | none => ({ world with retired }, [])
    | some (removed, native) => ({ native, retired }, [.releasing removed protocol none])
  | .connectProtocol protocol =>
    (world, (world.native.adapter.driverFor protocol).toList.map
      fun driver => .reconnecting driver protocol)
  | .disconnectProtocol protocol =>
    (world, (world.native.adapter.driverFor protocol).toList.map .parting)

/-- Continue after the await; `none` where the awaited promise cannot reject. -/
def resumeCall (world : World) : Call → Reply → Option (World × List Call)
  | .wiring driver epoch, .resolved =>
    let native := world.native.markUp driver
    if epoch ≠ native.adapter.epoch then some ({ world with native }, [])
    else some ({ world with native := native.wire driver }, [])
  | .wiring driver _, .rejected error =>
    some ({ world with
      native := (world.native.markDown driver).recordConnectError driver.protocol error }, [])
  | .booting, .resolved =>
    some ({ world with native := world.native.setConnected true }, [])
  | .booting, .rejected _ => none
  | .disconnecting position driver, .resolved =>
    let (native, more) := disconnectFrom (world.native.markDown driver) (position + 1)
    some ({ world with native }, more)
  | .disconnecting _ _, .rejected _ => some (world, [])
  -- A driver that fails to disconnect is forgotten all the same.
  | .releasing removed protocol replacement, _ =>
    some ({ world with native := world.native.forgetDriver removed protocol },
      replacement.toList.map .pushing)
  | .pushing driver, .resolved =>
    some ({ world with native := world.native.push driver },
      [.wiring driver world.native.adapter.epoch])
  | .pushing _, .rejected _ => none
  | .reconnecting driver protocol, .resolved =>
    some ({ world with
      native := (world.native.markUp driver).dropConnectErrors protocol }, [])
  | .reconnecting driver _, .rejected _ =>
    some ({ world with native := world.native.markDown driver }, [])
  | .parting driver, .resolved =>
    some ({ world with native := world.native.markDown driver }, [])
  | .parting _, .rejected _ => some (world, [])

def program : Program World Request Call Reply := ⟨startCall, resumeCall⟩

/-- Nothing has happened yet at an adapter built with these drivers. -/
def initial (drivers : List NativeProtocolDriver)
    (listeners inputListeners : OrderedSet ListenerRef) : Config World Call :=
  Program.idle ⟨.create drivers listeners inputListeners, []⟩

/--
Every live subscription is one at a registered driver, and none is one at a
driver of a protocol that was unregistered and not registered again.
-/
def NoZombie (config : Config World Call) : Prop :=
  ∀ subscription ∈ config.shared.native.live,
    subscription.driver ∈ config.shared.native.adapter.drivers ∧
      subscription.driver.protocol ∉ config.shared.retired

def TableHolds (native : NativeWorld) (protocol : String)
    (concerned : NativeProtocolDriver → Prop) : Prop :=
  ∀ subscription ∈ native.live, concerned subscription.driver →
    native.adapter.unsubByProtocol.get protocol = some subscription

/--
When a driver's connect ends well, in an epoch that still lasts, the driver is
registered and its protocol was not unregistered since the last `registerDriver`
for it.  When a driver is removed, the table holds every subscription that has
to end: the removed driver's, if it is not registered a second time, and for
`unregisterProtocol` those of all drivers of the protocol.
-/
def WiresRegistered (config : Config World Call) : Schedule Request Reply → Prop
  | .call (.registerDriver driver) =>
    TableHolds config.shared.native driver.protocol fun other =>
      config.shared.native.adapter.driverFor driver.protocol = some other ∧
        other ∉ config.shared.native.adapter.withoutDriver driver.protocol
  | .call (.unregisterProtocol protocol) =>
    TableHolds config.shared.native protocol fun other => other.protocol = protocol
  | .call _ => True
  | .resume _ (.rejected _) => True
  | .resume index .resolved =>
    match config.pending[index]? with
    | some (.wiring driver epoch) =>
      epoch = config.shared.native.adapter.epoch → driver ∈ config.shared.native.adapter.drivers ∧
          driver.protocol ∉ config.shared.retired
    | _ => True

theorem release_spec {native next : NativeWorld} {protocol : String}
    {removed : NativeProtocolDriver}
    (released : native.releaseProtocol protocol = some (removed, next)) :
    (∀ subscription, subscription ∈ next.live ↔ subscription ∈ native.live ∧
        native.adapter.unsubByProtocol.get protocol ≠ some subscription) ∧
    next.adapter.drivers = native.adapter.withoutDriver protocol := by
  rcases NativeWorld.releaseProtocol_eq_some released with ⟨_, rfl⟩
  refine ⟨(NativeWorld.unsubscribe_spec _ protocol).1, ?_⟩
  rw [NativeWorld.unsubscribe_frame]

theorem NoZombie.mono {config next : Config World Call} (noZombie : NoZombie config)
    (live : ∀ subscription ∈ next.shared.native.live, subscription ∈ config.shared.native.live)
    (drivers : ∀ driver ∈ config.shared.native.adapter.drivers,
      driver ∈ next.shared.native.adapter.drivers)
    (retired : ∀ protocol ∈ next.shared.retired, protocol ∈ config.shared.retired) :
    NoZombie next := by
  intro subscription member
  rcases noZombie subscription (live subscription member) with ⟨registered, current⟩
  exact ⟨drivers _ registered, fun old => current (retired _ old)⟩

variable {world : World} {pending : List Call}

theorem noZombie_registerDriver_iff
    (noZombie : NoZombie ⟨world, pending⟩) (driver : NativeProtocolDriver) (more : List Call) :
    NoZombie ⟨(startCall world (.registerDriver driver)).1, more⟩ ↔
      WiresRegistered ⟨world, pending⟩ (.call (.registerDriver driver)) := by
  simp only [startCall, WiresRegistered, TableHolds]
  cases released : world.native.releaseProtocol driver.protocol with
  | none =>
    rw [NativeWorld.releaseProtocol_eq_none.mp released]
    refine iff_of_true (noZombie.mono (fun _ member => member) (fun _ member => member)
      fun _ old => (mem_filter.mp old).1) ?_
    simp
  | some result =>
    rcases result with ⟨removed, native⟩
    rcases release_spec released with ⟨live, drivers⟩
    simp only [NoZombie, live, drivers]
    constructor
    · rintro kept subscription member ⟨_, dropped⟩
      by_contra notHeld
      exact dropped (kept subscription ⟨member, notHeld⟩).1
    · rintro held subscription ⟨member, notHeld⟩
      rcases noZombie subscription member with ⟨registered, current⟩
      refine ⟨?_, fun old => current (mem_filter.mp old).1⟩
      by_contra dropped
      exact notHeld (held subscription member
        ⟨SupremeNativeAdapter.driverFor_of_dropped registered dropped, dropped⟩)

theorem noZombie_unregisterProtocol_iff
    (noZombie : NoZombie ⟨world, pending⟩) (protocol : String) (more : List Call) :
    NoZombie ⟨(startCall world (.unregisterProtocol protocol)).1, more⟩ ↔
      WiresRegistered ⟨world, pending⟩ (.call (.unregisterProtocol protocol)) := by
  simp only [startCall, WiresRegistered, TableHolds]
  cases released : world.native.releaseProtocol protocol with
  | none =>
    have absent := SupremeNativeAdapter.driverFor_eq_none_iff.mp
      (NativeWorld.releaseProtocol_eq_none.mp released)
    refine iff_of_true ?_ ?_
    · intro subscription member
      rcases noZombie subscription member with ⟨registered, current⟩
      refine ⟨registered, ?_⟩
      rw [mem_cons, not_or]
      exact ⟨absent _ registered, current⟩
    · intro subscription member equal
      exact (absent _ (noZombie subscription member).1 equal).elim
  | some result =>
    rcases result with ⟨removed, native⟩
    rcases release_spec released with ⟨live, drivers⟩
    simp only [NoZombie, live, drivers]
    constructor
    · intro kept subscription member equal
      by_contra notHeld
      exact (kept subscription ⟨member, notHeld⟩).2 (equal ▸ mem_cons_self)
    · rintro held subscription ⟨member, notHeld⟩
      rcases noZombie subscription member with ⟨registered, current⟩
      have differs : subscription.driver.protocol ≠ protocol :=
        fun equal => notHeld (held subscription member equal)
      refine ⟨SupremeNativeAdapter.mem_withoutDriver_of_ne registered differs, ?_⟩
      rw [mem_cons, not_or]
      exact ⟨differs, current⟩

theorem noZombie_wiring_iff (noZombie : NoZombie ⟨world, pending⟩) (driver : NativeProtocolDriver)
    (more : List Call) :
    NoZombie ⟨{ world with native := (world.native.markUp driver).wire driver }, more⟩ ↔
      driver ∈ world.native.adapter.drivers ∧ driver.protocol ∉ world.retired := by
  simp only [NoZombie, NativeWorld.wire, NativeWorld.markUp, mem_append, mem_singleton]
  constructor
  · intro kept
    exact kept ⟨world.native.issued, driver⟩ (.inr rfl)
  · intro current subscription member
    rcases member with old | rfl
    · exact noZombie subscription old
    · exact current

theorem disconnectFrom_frame (native : NativeWorld) (position : Nat) :
    (disconnectFrom native position).1.live = native.live ∧
      (disconnectFrom native position).1.adapter.drivers = native.adapter.drivers := by
  simp only [disconnectFrom]
  split <;> exact ⟨rfl, rfl⟩

theorem noZombie_call_iff
    (noZombie : NoZombie ⟨world, pending⟩) (request : Request) (more : List Call) :
    NoZombie ⟨(startCall world request).1, more⟩ ↔
      WiresRegistered ⟨world, pending⟩ (.call request) := by
  cases request with
  | connect =>
    refine iff_of_true ?_ trivial
    simp only [startCall]
    split <;> exact noZombie
  | disconnect =>
    refine iff_of_true ?_ trivial
    rcases disconnectFrom_frame world.native.unsubscribeAll 0 with ⟨live, drivers⟩
    refine noZombie.mono ?_ ?_ fun _ old => old
    · intro subscription member
      simp only [startCall, live] at member
      exact mem_of_mem_filter member
    · intro driver member
      simp only [startCall, drivers]
      exact member
  | registerDriver driver => exact noZombie_registerDriver_iff noZombie driver more
  | unregisterProtocol protocol => exact noZombie_unregisterProtocol_iff noZombie protocol more
  | connectProtocol protocol => exact iff_of_true noZombie trivial
  | disconnectProtocol protocol => exact iff_of_true noZombie trivial

/-- Only a connect that ends well starts a subscription, and no resumed call ends a registration. -/
theorem resumeCall_frame {next : World} {call : Call} {reply : Reply}
    {more : List Call} (resumed : resumeCall world call reply = some (next, more))
    (other : ∀ driver epoch, call = .wiring driver epoch → reply ≠ .resolved) :
    (∀ subscription ∈ next.native.live, subscription ∈ world.native.live) ∧
      (∀ driver ∈ world.native.adapter.drivers, driver ∈ next.native.adapter.drivers) ∧
      ∀ protocol ∈ next.retired, protocol ∈ world.retired := by
  cases call with
  | wiring driver epoch =>
    cases reply with
    | resolved => exact (other driver epoch rfl rfl).elim
    | rejected error =>
      cases resumed
      exact ⟨fun _ live => live, fun _ held => held, fun _ old => old⟩
  | disconnecting position driver =>
    cases reply with
    | rejected error =>
      cases resumed
      exact ⟨fun _ live => live, fun _ held => held, fun _ old => old⟩
    | resolved =>
      simp only [resumeCall, some.injEq, Prod.mk.injEq] at resumed
      rcases resumed with ⟨rfl, rfl⟩
      rcases disconnectFrom_frame (world.native.markDown driver) (position + 1) with
        ⟨live, drivers⟩
      simp only [live, drivers]
      exact ⟨fun _ live => live, fun _ held => held, fun _ old => old⟩
  | pushing driver =>
    cases reply <;> cases resumed
    exact ⟨fun _ live => live, fun _ held => mem_append_left _ held, fun _ old => old⟩
  | booting =>
    cases reply <;> cases resumed
    exact ⟨fun _ live => live, fun _ held => held, fun _ old => old⟩
  | releasing removed protocol replacement =>
    cases resumed
    exact ⟨fun _ live => live, fun _ held => held, fun _ old => old⟩
  | reconnecting driver protocol =>
    cases reply <;> cases resumed <;>
      exact ⟨fun _ live => live, fun _ held => held, fun _ old => old⟩
  | parting driver =>
    cases reply <;> cases resumed <;>
      exact ⟨fun _ live => live, fun _ held => held, fun _ old => old⟩

theorem noZombie_resume_iff {config : Config World Call} {before after more : List Call}
    {call : Call} {reply : Reply} {shared : World} (noZombie : NoZombie config)
    (split : config.pending = before ++ call :: after)
    (resumed : resumeCall config.shared call reply = some (shared, more)) :
    NoZombie ⟨shared, before ++ more ++ after⟩ ↔
      WiresRegistered config (.resume before.length reply) := by
  have found : config.pending[before.length]? = some call := by simp [split]
  by_cases wires : ∃ driver epoch, call = .wiring driver epoch ∧ reply = .resolved
  · rcases wires with ⟨driver, epoch, rfl, rfl⟩
    simp only [WiresRegistered, found]
    simp only [resumeCall] at resumed
    by_cases lasting : epoch = config.shared.native.adapter.epoch
    · simp only [NativeWorld.markUp, lasting, ne_eq, not_true_eq_false, if_false,
        some.injEq, Prod.mk.injEq] at resumed
      rcases resumed with ⟨rfl, rfl⟩
      simp only [lasting, forall_true_left]
      exact noZombie_wiring_iff noZombie driver _
    · simp only [NativeWorld.markUp, ne_eq, lasting, not_false_eq_true, if_true,
        some.injEq, Prod.mk.injEq] at resumed
      rcases resumed with ⟨rfl, rfl⟩
      simp only [lasting, false_implies, iff_true]
      exact noZombie
  · have other : ∀ driver epoch, call = .wiring driver epoch → reply ≠ .resolved :=
      fun driver epoch equal ended => wires ⟨driver, epoch, equal, ended⟩
    rcases resumeCall_frame resumed other with ⟨live, drivers, retired⟩
    refine iff_of_true (noZombie.mono live drivers retired) ?_
    cases reply with
    | rejected error => trivial
    | resolved =>
      simp only [WiresRegistered, found]
      split
      · rename_i driver epoch wiring
        exact (other driver epoch (some.inj wiring) rfl).elim
      · trivial

theorem noZombie_step_iff (config : Config World Call)
    (label : Schedule Request Reply) (next : Config World Call) (noZombie : NoZombie config)
    (step : program.machine.step config label = some next) :
    NoZombie next ↔ WiresRegistered config label := by
  cases label with
  | call request =>
    cases Program.step_call_eq_some.mp step
    exact noZombie_call_iff noZombie request _
  | resume index reply =>
    rcases Program.step_resume_eq_some.mp step with
      ⟨before, call, after, shared, more, split, rfl, resumed, rfl⟩
    exact noZombie_resume_iff noZombie split resumed

/--
Over every interleaving, with driver connects that end at any later moment and
in either way, no live subscription is at a driver that is not registered or of
a protocol that stays unregistered, exactly if every wiring and every removal
meets `WiresRegistered`.
-/
theorem noZombie_iff_wiresRegistered (drivers : List NativeProtocolDriver)
    (listeners inputListeners : OrderedSet ListenerRef) (labels : List (Schedule Request Reply)) :
    program.machine.Throughout NoZombie (initial drivers listeners inputListeners)
        labels ↔ program.machine.Guarded WiresRegistered (initial drivers listeners inputListeners)
        labels := by
  apply Machine.throughout_iff_guarded_of_step noZombie_step_iff
  simp [NoZombie, initial, Program.idle, NativeWorld.create]

/--
A driver that is unregistered while its connect is pending: when nothing is in
flight any more, it is subscribed to although no driver is registered.
-/
theorem unregistered_driver_is_wired : ∃ final, program.machine.run (initial [] .empty .empty)
        [.call (.registerDriver ⟨0, "knx", false, true⟩), .resume 0 .resolved,
          .call (.unregisterProtocol "knx"), .resume 1 .resolved, .resume 0 .resolved] =
        some final ∧ final.pending = [] ∧ ¬ NoZombie final := by
  refine ⟨_, rfl, rfl, ?_⟩
  intro noZombie
  have registered := (noZombie ⟨0, ⟨0, "knx", false, true⟩⟩ (by decide)).1
  revert registered
  decide

end NativeAdapterRuns

end SupremeOs.IntegrationLayer
