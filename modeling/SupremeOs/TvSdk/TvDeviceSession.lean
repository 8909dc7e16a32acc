import SupremeOs.Support.Histories
import SupremeOs.Support.Interleaving
import SupremeOs.Support.Timers

/-!
# The session of a television

A session has one transport and one reconnect scheduler.  Establishing a
connection waits for the transport; the session looks at its flags before that
and not afterwards.  Events of the transport are heard from the first attempt
on.

The calls of `connect` and `disconnect` and the connections that are begun at
the transport are recorded in their order.
-/

namespace SupremeOs.TvSdk

open Support

inductive TvSessionState where
  | disconnected
  | connecting
  | authenticating
  | connected
  | degraded
  | reconnecting
  | pairingRequired
  | failed
  | disabled

/-- The class of an error, or that it is none of this kit. -/
inductive TvErrorKind where
  | connection
  | timeout
  | pairingRequired
  | authentication
  | unsupportedCommand
  | config
  | unknown

def TvErrorKind.isRetryable : TvErrorKind → Bool
  | .connection | .timeout | .unknown => true
  | .pairingRequired | .authentication | .unsupportedCommand | .config => false

inductive PairingState where
  | notRequired
  | pairingRequired
  | paired

inductive AuthenticationState where
  | notRequired
  | authenticated
  | failed

/-- The events of a transport; what they say of media and applications goes to a cache. -/
inductive TvTransportEvent where
  | mediaState
  | foregroundApp
  | connectionLost
  | pairingRequired
  | authenticationFailed (reason : String)
  | error (message : String)

structure TvReconnectScheduler where
  timer : Option Nat
  attemptCount : Nat
  stopped : Bool
  /-- The timers of the event loop. -/
  timers : Timers

namespace TvReconnectScheduler

def initial : TvReconnectScheduler := ⟨none, 0, true, Timers.none⟩

variable (scheduler : TvReconnectScheduler)

def scheduleNext : TvReconnectScheduler :=
  if scheduler.stopped || scheduler.timer.isSome then scheduler
  else
    { scheduler with
      attemptCount := scheduler.attemptCount + 1
      timer := some scheduler.timers.next
      timers := scheduler.timers.set }

def resetOnSuccess : TvReconnectScheduler :=
  { scheduler with attemptCount := 0 }

def start : TvReconnectScheduler :=
  { scheduler with stopped := false }

def stop : TvReconnectScheduler :=
  { scheduler with
    stopped := true
    timers := scheduler.timers.clearField scheduler.timer
    timer := none }

def fired (handle : Nat) : TvReconnectScheduler :=
  { scheduler with timers := scheduler.timers.clear handle, timer := none }

/-- The field holds the handle of the only timer, and there is none after a stop. -/
structure Kept (scheduler : TvReconnectScheduler) : Prop where
  tracks : scheduler.timers.Tracks scheduler.timer
  off : scheduler.stopped = true → scheduler.timer = none

variable {scheduler : TvReconnectScheduler}

theorem kept_initial : initial.Kept := ⟨Timers.Tracks.initial, fun _ => rfl⟩

theorem Kept.scheduleNext (kept : scheduler.Kept) : scheduler.scheduleNext.Kept := by
  unfold TvReconnectScheduler.scheduleNext
  split
  · exact kept
  · rename_i idle
    simp only [Bool.or_eq_true, not_or, Bool.not_eq_true, Option.isSome_eq_false_iff,
      Option.isNone_iff_eq_none] at idle
    have tracks := kept.tracks
    rw [idle.2] at tracks
    refine ⟨tracks.set, ?_⟩
    intro stopped
    exact absurd (idle.1.symm.trans stopped) Bool.false_ne_true

theorem Kept.stop (kept : scheduler.Kept) : scheduler.stop.Kept :=
  ⟨kept.tracks.clearField, fun _ => rfl⟩

theorem Kept.fired {handle : Nat} (kept : scheduler.Kept)
    (armed : handle ∈ scheduler.timers.armed) : (scheduler.fired handle).Kept :=
  ⟨kept.tracks.fired armed, fun _ => rfl⟩

@[simp]
theorem stopped_scheduleNext : scheduler.scheduleNext.stopped = scheduler.stopped := by
  unfold scheduleNext
  split <;> rfl

end TvReconnectScheduler

inductive TvSessionRecord where
  /-- `connect` is called. -/
  | connect
  /-- `disconnect` returns. -/
  | disconnect
  /-- A connection is begun at the transport. -/
  | begun

structure TvDeviceSession where
  state : TvSessionState
  reconnect : TvReconnectScheduler
  /-- How many transports have been replaced. -/
  transport : Nat
  /-- Whether the events of the transport are heard. -/
  subscribed : Bool
  disposed : Bool
  stoppedDeliberately : Bool
  pairingState : PairingState
  authenticationState : AuthenticationState
  errorCount : Nat
  lastError : Option String
  history : List TvSessionRecord

/-- What `establish` meets when it goes on. -/
inductive ConnectOutcome where
  | resolved
  | rejected (kind : TvErrorKind) (message : String)

inductive TvSessionRequest where
  | connect
  | disconnect
  | dispose
  | transportEvent (event : TvTransportEvent)
  | reconnectTimer (handle : Nat)

/-- The only thing that is waited for is the `connect` of a transport. -/
inductive TvSessionCall where
  | establishing

namespace TvDeviceSession

def initial : TvDeviceSession where
  state := .disconnected
  reconnect := TvReconnectScheduler.initial
  transport := 0
  subscribed := false
  disposed := false
  stoppedDeliberately := true
  pairingState := .notRequired
  authenticationState := .notRequired
  errorCount := 0
  lastError := none
  history := []

variable (session : TvDeviceSession)

def recordError (message : String) : TvDeviceSession :=
  { session with errorCount := session.errorCount + 1, lastError := some message }

def establish : TvDeviceSession × List TvSessionCall :=
  if session.disposed || session.stoppedDeliberately then (session, [])
  else
    let again := decide (0 < session.reconnect.attemptCount)
    ({ session with
      state := if again then .reconnecting else .connecting
      transport := if again then session.transport + 1 else session.transport
      subscribed := true
      history := session.history ++ [.begun] }, [.establishing])

def connect (session : TvDeviceSession) : TvDeviceSession × List TvSessionCall :=
  { session with
    stoppedDeliberately := false
    reconnect := session.reconnect.start
    history := session.history ++ [TvSessionRecord.connect] }.establish

def disconnect (session : TvDeviceSession) : TvDeviceSession :=
  { session with
    stoppedDeliberately := true
    reconnect := session.reconnect.stop
    state := .disconnected
    history := session.history ++ [.disconnect] }

def dispose : TvDeviceSession :=
  if session.disposed then session
  else
    { session with
      disposed := true
      reconnect := session.reconnect.stop
      subscribed := false }

/-- The part of `establish` after the transport has been waited for. -/
def established : ConnectOutcome → TvDeviceSession
  | .resolved =>
    { session with
      reconnect := session.reconnect.resetOnSuccess
      pairingState := .paired
      authenticationState := .authenticated
      state := .connected }
  | .rejected .pairingRequired message =>
    { session.recordError message with
      pairingState := .pairingRequired
      state := .pairingRequired }
  | .rejected .authentication message =>
    let failed := { session.recordError message with
      authenticationState := .failed
      state := .failed }
    if !TvErrorKind.authentication.isRetryable then failed
    else { failed with state := .reconnecting, reconnect := failed.reconnect.scheduleNext }
  | .rejected _ message =>
    { session.recordError message with
      state := .reconnecting
      reconnect := session.reconnect.scheduleNext }

/-- An event is heard unless the session is disposed or has not subscribed yet. -/
def hears : Bool :=
  session.subscribed && !session.disposed

def onTransportEvent : TvTransportEvent → TvDeviceSession
  | .mediaState | .foregroundApp => session
  | .connectionLost =>
    if session.stoppedDeliberately then { session with state := .degraded }
    else
      { session with
        state := .reconnecting
        reconnect := session.reconnect.scheduleNext }
  | .pairingRequired =>
    { session with pairingState := .pairingRequired, state := .pairingRequired }
  | .authenticationFailed reason =>
    { session.recordError reason with authenticationState := .failed, state := .failed }
  | .error message => session.recordError message

end TvDeviceSession

def tvSession : Program TvDeviceSession TvSessionRequest TvSessionCall ConnectOutcome where
  start session
    | .connect => session.connect
    | .disconnect => (session.disconnect, [])
    | .dispose => (session.dispose, [])
    | .transportEvent event =>
      if session.hears then (session.onTransportEvent event, []) else (session, [])
    | .reconnectTimer handle =>
      if handle ∈ session.reconnect.timers.armed then
        { session with reconnect := session.reconnect.fired handle }.establish
      else (session, [])
  resume session _ outcome := some (session.established outcome, [])

end SupremeOs.TvSdk
