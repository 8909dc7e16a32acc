import SupremeOs.Knx.ConnectionManager
import SupremeOs.Support.Histories
import SupremeOs.Support.Interleaving
import SupremeOs.Support.Timers

/-!
# The connection manager with its timers and its transport

`ConnectionManager` says what each operation does to the fields of the manager.
Here the fields hold the handles of timers that an event loop has armed, and
whatever the manager waits for is a call in flight: a connection that is tried,
a disconnection, a health check.  A connection is there from the moment the
promise of `connect` is fulfilled; the manager takes note of it a little later.

What is asked of the manager and what it asks of the transport is recorded.
-/

namespace SupremeOs.Knx

open Support

/-- What is asked of the manager and what happens at the transport, in order. -/
inductive SupervisionEvent where
  | start
  | stop
  | markConnected
  /-- The `connect` of the transport has succeeded. -/
  | connected
  /-- The `disconnect` of the transport is called. -/
  | disconnect
deriving DecidableEq

structure SupervisedConnection where
  state : ConnectionState
  reconnectTimer : Option Nat
  heartbeatTimer : Option Nat
  stopped : Bool
  connecting : Bool
  reconnectAttempts : Nat
  /-- Whether a health check was given. -/
  isHealthy : Bool
  timeouts : Timers
  intervals : Timers
  history : List SupervisionEvent
  /-- How many connections have been established; they are numbered. -/
  established : Nat
  /-- The connections that have been reported lost. -/
  reported : List Nat
  /-- The connection that is there. -/
  up : Option Nat
  /-- Whether a health check has ended a connection established after the check began. -/
  endedLater : Bool

inductive SupervisionCall where
  /-- The `connect` of the transport. -/
  | connecting
  /-- A connection is there; the manager is still to take note of it. -/
  | connectResolved (connection : Nat)
  /-- The attempt has failed; the manager is still to take note of it. -/
  | connectRejected
  /-- The `disconnect` of the transport, called to stop. -/
  | stopping
  /-- The health check; so many connections had been established when it began. -/
  | checking (since : Nat)
  /-- The `disconnect` of the transport, called because a health check failed. -/
  | recovering
deriving DecidableEq

/-- The calls of an attempt, up to the moment the manager takes note of its outcome. -/
def SupervisionCall.isAttempt : SupervisionCall → Bool
  | .connecting | .connectResolved _ | .connectRejected => true
  | .stopping | .checking _ | .recovering => false

inductive SupervisionRequest where
  | start
  | stop
  | markConnected
  /-- The transport reports that a connection is lost. -/
  | reportDisconnected (connection : Nat)
  | reconnectTimer (handle : Nat)
  | heartbeatTimer (handle : Nat)

namespace SupervisedConnection

def initial (isHealthy : Bool) : SupervisedConnection where
  state := .disconnected
  reconnectTimer := none
  heartbeatTimer := none
  stopped := true
  connecting := false
  reconnectAttempts := 0
  isHealthy := isHealthy
  timeouts := Timers.none
  intervals := Timers.none
  history := []
  established := 0
  reported := []
  up := none
  endedLater := false

variable (connection : SupervisedConnection)

def clearReconnectTimer : SupervisedConnection :=
  { connection with
    timeouts := connection.timeouts.clearField connection.reconnectTimer
    reconnectTimer := none }

def clearHeartbeat : SupervisedConnection :=
  { connection with
    intervals := connection.intervals.clearField connection.heartbeatTimer
    heartbeatTimer := none }

def scheduleReconnect : SupervisedConnection :=
  let cleared := connection.clearReconnectTimer
  if cleared.stopped then cleared
  else
    { cleared with
      reconnectTimer := some cleared.timeouts.next
      timeouts := cleared.timeouts.set }

def startHeartbeat : SupervisedConnection :=
  let cleared := connection.clearHeartbeat
  if cleared.isHealthy then
    { cleared with
      heartbeatTimer := some cleared.intervals.next
      intervals := cleared.intervals.set }
  else cleared

def note (event : SupervisionEvent) : SupervisedConnection :=
  { connection with history := connection.history ++ [event] }

def establish : SupervisedConnection :=
  { connection with
    established := connection.established + 1
    up := some connection.established }

def disconnect (connection : SupervisedConnection) : SupervisedConnection :=
  { connection with up := none }.note .disconnect

def attemptConnect : SupervisedConnection × List SupervisionCall :=
  if connection.connecting || connection.stopped then (connection, [])
  else
    ({ connection with
      connecting := true
      state := if 0 < connection.reconnectAttempts then .recovering else .connecting },
      [.connecting])

def start (connection : SupervisedConnection) : SupervisedConnection × List SupervisionCall :=
  let asked := connection.note .start
  if asked.stopped then { asked with stopped := false }.attemptConnect else (asked, [])

def stop (connection : SupervisedConnection) : SupervisedConnection × List SupervisionCall :=
  let off := { connection.note .stop with stopped := true }.clearReconnectTimer.clearHeartbeat
  if off.state = .disconnected then (off, []) else (off.disconnect, [.stopping])

def markConnected (connection : SupervisedConnection) : SupervisedConnection :=
  { (connection.note .markConnected).establish with
    stopped := false
    connecting := false
    reconnectAttempts := 0
    state := .connected }.startHeartbeat

def reportDisconnected (lost : Nat) : SupervisedConnection :=
  let told := { connection with
    reported := connection.reported ++ [lost]
    up := if connection.up = some lost then none else connection.up }
  if told.stopped ∨ told.state ≠ .connected then told
  else
    { told.clearHeartbeat with
      state := .error
      reconnectAttempts := told.reconnectAttempts + 1 }.scheduleReconnect

def runHeartbeat : List SupervisionCall :=
  if connection.stopped ∨ connection.state ≠ .connected then []
  else [.checking connection.established]

/-- The continuation of an attempt that succeeded. -/
def connectResolved : SupervisedConnection :=
  if connection.stopped then { connection with connecting := false }
  else
    { connection with
      connecting := false
      reconnectAttempts := 0
      state := .connected }.startHeartbeat

def connectRejected : SupervisedConnection :=
  let failed := { connection with
    connecting := false
    reconnectAttempts := connection.reconnectAttempts + 1
    state := .error }
  if failed.stopped then failed else failed.scheduleReconnect

/-- Whether the connection that is there was established after so many others. -/
def isLater (since : Nat) : Bool :=
  connection.up.any fun number => decide (since ≤ number)

/-- A health check came back unhealthy, or failed. -/
def degrade (since : Nat) : SupervisedConnection :=
  { connection with
    state := .degraded
    endedLater := connection.endedLater || connection.isLater since }.clearHeartbeat.disconnect

def recover : SupervisedConnection :=
  { connection with reconnectAttempts := connection.reconnectAttempts + 1 }.scheduleReconnect

end SupervisedConnection

/-- The segments of the manager; a reply says whether the promise is fulfilled, and a health
check whether it finds the connection healthy. -/
def supervision : Program SupervisedConnection SupervisionRequest SupervisionCall Bool where
  start connection
    | .start => connection.start
    | .stop => connection.stop
    | .markConnected => (connection.markConnected, [])
    | .reportDisconnected lost => (connection.reportDisconnected lost, [])
    | .reconnectTimer handle =>
      if handle ∈ connection.timeouts.armed then
        { connection with
          timeouts := connection.timeouts.clear handle
          reconnectTimer := none }.attemptConnect
      else (connection, [])
    | .heartbeatTimer handle =>
      if handle ∈ connection.intervals.armed then (connection, connection.runHeartbeat)
      else (connection, [])
  resume connection call fulfilled :=
    match call with
    | .connecting =>
      if fulfilled then
        some ((connection.note .connected).establish, [.connectResolved connection.established])
      else some (connection, [.connectRejected])
    | .connectResolved _ => some (connection.connectResolved, [])
    | .connectRejected => some (connection.connectRejected, [])
    | .stopping => some ({ connection with state := .disconnected }, [])
    | .checking since =>
      if fulfilled then some (connection, []) else some (connection.degrade since, [.recovering])
    | .recovering => some (connection.recover, [])

def SupervisionEvent.switches : SupervisionEvent → Option Bool
  | .start | .markConnected => some true
  | .stop => some false
  | .connected | .disconnect => none

/-- Supervision was started or marked connected, and not stopped since. -/
def SwitchedOn (history : List SupervisionEvent) : Prop :=
  ∃ earlier event later, history = earlier ++ event :: later ∧
    (event = .start ∨ event = .markConnected) ∧ .stop ∉ later

/-- Supervision was stopped, and neither started nor marked connected since. -/
def SwitchedOff (history : List SupervisionEvent) : Prop :=
  ∃ earlier later, history = earlier ++ .stop :: later ∧
    .start ∉ later ∧ .markConnected ∉ later

variable {history : List SupervisionEvent}

theorem latest_of_switchedOn (on : SwitchedOn history) :
    latest SupervisionEvent.switches history = true := by
  rcases on with ⟨earlier, event, later, split, switched, kept⟩
  refine latest_iff.mpr ⟨earlier, event, later, split, ?_, ?_⟩
  · rcases switched with rfl | rfl <;> rfl
  · intro other member off
    cases other with
    | stop => exact kept member
    | start | markConnected | connected | disconnect => simp [SupervisionEvent.switches] at off

theorem latest_of_switchedOff (off : SwitchedOff history) :
    latest SupervisionEvent.switches history = false := by
  rcases off with ⟨earlier, later, split, notStarted, notMarked⟩
  apply @latest_eq_false_of_opposite _ _ _ fun event => event.switches.map not
  · exact fun _ => rfl
  refine latest_iff.mpr ⟨earlier, .stop, later, split, rfl, ?_⟩
  intro other member on
  cases other with
  | start => exact notStarted member
  | markConnected => exact notMarked member
  | stop | connected | disconnect => simp [SupervisionEvent.switches] at on

namespace SupervisedConnection

variable {connection : SupervisedConnection}

/-- The manager is stopped unless the last request has switched it on. -/
def Switched (connection : SupervisedConnection) : Prop :=
  connection.stopped = !latest SupervisionEvent.switches connection.history

/-- The fields hold the handles of the armed timers, and there are none after a stop. -/
structure TimersKept (connection : SupervisedConnection) : Prop where
  timeouts : connection.timeouts.Tracks connection.reconnectTimer
  intervals : connection.intervals.Tracks connection.heartbeatTimer
  off : connection.stopped = true →
    connection.reconnectTimer = none ∧ connection.heartbeatTimer = none

theorem timersKept_initial (isHealthy : Bool) : (initial isHealthy).TimersKept :=
  ⟨Timers.Tracks.initial, Timers.Tracks.initial, fun _ => ⟨rfl, rfl⟩⟩

theorem scheduleReconnect_spec (kept : connection.TimersKept) :
    ∃ timer timeouts, connection.scheduleReconnect =
        { connection with reconnectTimer := timer, timeouts := timeouts } ∧
      timeouts.Tracks timer ∧ timer.isSome = !connection.stopped := by
  have cleared := kept.timeouts.clearField
  unfold scheduleReconnect
  cases off : connection.stopped with
  | true => exact ⟨none, _, by simp [clearReconnectTimer, off], cleared, rfl⟩
  | false => exact ⟨_, _, by simp [clearReconnectTimer, off], cleared.set, rfl⟩

theorem startHeartbeat_spec (tracks : connection.intervals.Tracks connection.heartbeatTimer) :
    ∃ timer intervals, connection.startHeartbeat =
        { connection with heartbeatTimer := timer, intervals := intervals } ∧
      intervals.Tracks timer := by
  have cleared := tracks.clearField
  unfold startHeartbeat
  cases given : connection.isHealthy with
  | false => exact ⟨none, _, by simp [clearHeartbeat, given], cleared⟩
  | true => exact ⟨_, _, by simp [clearHeartbeat, given], cleared.set⟩

theorem attemptConnect_spec (kept : connection.TimersKept) :
    (connection.attemptConnect.1).TimersKept ∧ (connection.attemptConnect = (connection, []) ∧
          (connection.connecting = true ∨ connection.stopped = true) ∨
        ∃ state, state ≠ .disconnected ∧ state ≠ .connected ∧ connection.stopped = false ∧
          connection.attemptConnect =
            ({ connection with connecting := true, state := state }, [.connecting])) := by
  unfold attemptConnect
  by_cases refuses : (connection.connecting || connection.stopped) = true
  · rw [if_pos refuses]
    exact ⟨kept, .inl ⟨rfl, by simpa using refuses⟩⟩
  · rw [if_neg refuses]
    refine ⟨⟨kept.timeouts, kept.intervals, kept.off⟩, .inr ⟨_, ?_, ?_, ?_, rfl⟩⟩
    · split <;> simp
    · split <;> simp
    · simp only [Bool.or_eq_true, not_or, Bool.not_eq_true] at refuses
      exact refuses.2

theorem start_eq : connection.start = if connection.stopped then
        { connection with
          stopped := false
          history := connection.history ++ [SupervisionEvent.start] }.attemptConnect
      else
        ({ connection with history := connection.history ++ [SupervisionEvent.start] }, []) := rfl

section

variable (kept : connection.TimersKept)

include kept

theorem stop_spec :
    ∃ timeouts intervals, timeouts.Tracks none ∧ intervals.Tracks none ∧
      (connection.state = .disconnected ∧ connection.stop = ({ connection with
            stopped := true, reconnectTimer := none, heartbeatTimer := none
            timeouts := timeouts, intervals := intervals
            history := connection.history ++ [.stop] }, []) ∨
        connection.state ≠ .disconnected ∧ connection.stop = ({ connection with
            stopped := true, reconnectTimer := none, heartbeatTimer := none
            timeouts := timeouts, intervals := intervals, up := none
            history := connection.history ++ [.stop] ++ [.disconnect] }, [.stopping])) := by
  refine ⟨_, _, kept.timeouts.clearField, kept.intervals.clearField, ?_⟩
  unfold stop
  by_cases disconnected : connection.state = .disconnected
  · exact .inl ⟨disconnected, if_pos disconnected⟩
  · exact .inr ⟨disconnected, if_neg disconnected⟩

theorem markConnected_spec :
    ∃ timer intervals, intervals.Tracks timer ∧ connection.markConnected = { connection with
        stopped := false, connecting := false, reconnectAttempts := 0, state := .connected
        heartbeatTimer := timer, intervals := intervals
        established := connection.established + 1, up := some connection.established
        history := connection.history ++ [.markConnected] } := by
  rcases @startHeartbeat_spec { connection with
      stopped := false, connecting := false, reconnectAttempts := 0, state := .connected
      established := connection.established + 1, up := some connection.established
      history := connection.history ++ [.markConnected] }
      kept.intervals with ⟨timer, intervals, started, tracks⟩
  exact ⟨timer, intervals, tracks, started⟩

theorem reportDisconnected_spec (lost : Nat) :
    let told := { connection with
      reported := connection.reported ++ [lost]
      up := if connection.up = some lost then none else connection.up }
    ((connection.stopped = true ∨ connection.state ≠ .connected) ∧
        connection.reportDisconnected lost = told) ∨
      (connection.stopped = false ∧ connection.state = .connected ∧
        ∃ handle timeouts intervals, timeouts.Tracks (some handle) ∧ intervals.Tracks none ∧
          connection.reportDisconnected lost = { told with
            state := .error, reconnectAttempts := connection.reconnectAttempts + 1
            reconnectTimer := some handle, timeouts := timeouts
            heartbeatTimer := none, intervals := intervals }) := by
  intro told
  unfold reportDisconnected
  by_cases ignored : connection.stopped = true ∨ connection.state ≠ .connected
  · exact .inl ⟨ignored, by simp only [ignored, if_true, told]⟩
  · have effective : connection.stopped = false ∧ connection.state = .connected := by
      simpa using ignored
    have lostKept : ({ told.clearHeartbeat with
        state := .error
        reconnectAttempts := told.reconnectAttempts + 1 } :
          SupervisedConnection).TimersKept :=
      ⟨kept.timeouts, kept.intervals.clearField, by simp [clearHeartbeat, told, effective.1]⟩
    rcases scheduleReconnect_spec lostKept with ⟨timer, timeouts, scheduled, tracks, armed⟩
    have some_timer : timer.isSome = true := by
      simpa [clearHeartbeat, told, effective.1] using armed
    rcases Option.isSome_iff_exists.mp some_timer with ⟨handle, rfl⟩
    refine .inr ⟨effective.1, effective.2, handle, timeouts, _, tracks,
      kept.intervals.clearField, ?_⟩
    simp only [ignored, if_false]
    exact scheduled

theorem connectResolved_spec : (connection.stopped = true ∧
        connection.connectResolved = { connection with connecting := false }) ∨
      (connection.stopped = false ∧ ∃ timer intervals, intervals.Tracks timer ∧
        connection.connectResolved = { connection with
          connecting := false, reconnectAttempts := 0, state := .connected
          heartbeatTimer := timer, intervals := intervals }) := by
  unfold connectResolved
  by_cases off : connection.stopped = true
  · exact .inl ⟨off, if_pos off⟩
  · rcases @startHeartbeat_spec { connection with
        connecting := false, reconnectAttempts := 0, state := .connected }
        kept.intervals with ⟨timer, intervals, started, tracks⟩
    rw [if_neg off]
    exact .inr ⟨eq_false_of_ne_true off, timer, intervals, tracks, started⟩

theorem connectRejected_spec :
    ∃ timer timeouts, timeouts.Tracks timer ∧ timer.isSome = !connection.stopped ∧
      connection.connectRejected = { connection with
        connecting := false, reconnectAttempts := connection.reconnectAttempts + 1
        state := .error, reconnectTimer := timer, timeouts := timeouts } := by
  unfold connectRejected
  by_cases off : connection.stopped = true
  · refine ⟨none, connection.timeouts, ?_, by simp [off], ?_⟩
    · have tracks := kept.timeouts
      rwa [(kept.off off).1] at tracks
    · rw [if_pos off]
      simp only [(kept.off off).1]
  · have failedKept : ({ connection with
        connecting := false
        reconnectAttempts := connection.reconnectAttempts + 1
        state := .error } : SupervisedConnection).TimersKept :=
      ⟨kept.timeouts, kept.intervals, kept.off⟩
    rcases scheduleReconnect_spec failedKept with ⟨timer, timeouts, scheduled, tracks, armed⟩
    rw [if_neg off]
    exact ⟨timer, timeouts, tracks, armed, scheduled⟩

theorem degrade_spec (since : Nat) :
    ∃ intervals, intervals.Tracks none ∧ connection.degrade since = { connection with
        state := .degraded
        endedLater := connection.endedLater || connection.isLater since
        heartbeatTimer := none, intervals := intervals, up := none
        history := connection.history ++ [.disconnect] } :=
  ⟨_, kept.intervals.clearField, rfl⟩

theorem recover_spec :
    ∃ timer timeouts, timeouts.Tracks timer ∧ timer.isSome = !connection.stopped ∧
      connection.recover = { connection with
        reconnectAttempts := connection.reconnectAttempts + 1
        reconnectTimer := timer, timeouts := timeouts } := by
  have triedKept : ({ connection with
      reconnectAttempts := connection.reconnectAttempts + 1 } :
        SupervisedConnection).TimersKept :=
    ⟨kept.timeouts, kept.intervals, kept.off⟩
  rcases scheduleReconnect_spec triedKept with ⟨timer, timeouts, scheduled, tracks, armed⟩
  exact ⟨timer, timeouts, tracks, armed, scheduled⟩

end

/-- The manager without its event loop: a timer is pending or not. -/
def manager (connection : SupervisedConnection) : ConnectionManager where
  state := connection.state
  reconnectTimer := connection.reconnectTimer.isSome
  heartbeatTimer := connection.heartbeatTimer.isSome
  stopped := connection.stopped
  connecting := connection.connecting
  reconnectAttempts := connection.reconnectAttempts

theorem manager_attemptConnect :
    connection.attemptConnect.1.manager = connection.manager.attemptConnect := by
  unfold attemptConnect ConnectionManager.attemptConnect ConnectionManager.mayAttempt
  cases attempting : connection.connecting <;> cases off : connection.stopped <;>
    simp [manager, attempting, off]

theorem manager_stop (kept : connection.TimersKept) :
    connection.stop.1.manager = connection.manager.stop := by
  rcases stop_spec kept with ⟨_, _, _, _, ⟨_, stops⟩ | ⟨_, stops⟩⟩ <;> rw [stops] <;> rfl

theorem manager_startHeartbeat (given : connection.isHealthy = true) :
    connection.startHeartbeat.manager = connection.manager.startHeartbeat := by
  simp [startHeartbeat, clearHeartbeat, given, manager, ConnectionManager.startHeartbeat]

theorem manager_scheduleReconnect :
    connection.scheduleReconnect.manager = connection.manager.scheduleReconnect := by
  unfold scheduleReconnect ConnectionManager.scheduleReconnect
  cases off : connection.stopped <;> simp [clearReconnectTimer, manager, off]

theorem manager_markConnected (given : connection.isHealthy = true) :
    connection.markConnected.manager = connection.manager.markConnected.startHeartbeat := by
  unfold markConnected
  rw [manager_startHeartbeat (by exact given)]
  rfl

theorem manager_reportDisconnected (lost : Nat) :
    (connection.reportDisconnected lost).manager = connection.manager.reportDisconnected := by
  unfold reportDisconnected ConnectionManager.reportDisconnected
  by_cases ignored : connection.stopped = true ∨ connection.state ≠ .connected
  · exact (congrArg manager (if_pos ignored)).trans (if_pos ignored).symm
  · exact (congrArg manager (if_neg ignored)).trans
      (manager_scheduleReconnect.trans (if_neg ignored).symm)

theorem manager_connectResolved (given : connection.isHealthy = true) :
    connection.connectResolved.manager =
      if connection.stopped then { connection.manager with connecting := false }
      else connection.manager.attemptSucceeded.startHeartbeat := by
  unfold connectResolved
  split
  · rfl
  · rw [manager_startHeartbeat (by exact given)]
    rfl

theorem manager_connectRejected (kept : connection.TimersKept) :
    connection.connectRejected.manager = connection.manager.attemptFailed := by
  unfold connectRejected ConnectionManager.attemptFailed
  by_cases off : connection.stopped = true
  · rw [if_pos (by exact off)]
    simp [manager, ConnectionManager.scheduleReconnect, (kept.off off).1, off]
  · rw [if_neg (by exact off), manager_scheduleReconnect]
    rfl

theorem manager_degrade (since : Nat) :
    (connection.degrade since).manager = connection.manager.degrade := rfl

theorem manager_recover : connection.recover.manager = connection.manager.recover :=
  manager_scheduleReconnect

/-- What the fields of the manager may go through in one segment. -/
inductive ManagerStep (before : ConnectionManager) : ConnectionManager → Prop where
  | keep : ManagerStep before before
  | start (off : before.stopped = true) :
      ManagerStep before { before with stopped := false }.attemptConnect
  | attempt (due : before.reconnectTimer = true) :
      ManagerStep before { before with reconnectTimer := false }.attemptConnect
  | markConnected : ManagerStep before before.markConnected.startHeartbeat
  | reportDisconnected : ManagerStep before before.reportDisconnected
  | stop : ManagerStep before before.stop
  | setDisconnected : ManagerStep before before.setDisconnected
  | attemptSucceeded (on : before.stopped = false) :
      ManagerStep before before.attemptSucceeded.startHeartbeat
  | attemptIgnored (off : before.stopped = true) :
      ManagerStep before { before with connecting := false }
  | attemptFailed : ManagerStep before before.attemptFailed
  | degrade : ManagerStep before before.degrade
  | recover : ManagerStep before before.recover

structure Checked (connection : SupervisedConnection) : Prop where
  kept : connection.TimersKept
  given : connection.isHealthy = true

/-- A segment keeps the timers, and is a step of the manager. -/
structure Refines (connection after : SupervisedConnection) : Prop where
  checked : after.Checked
  step : ManagerStep connection.manager after.manager

section

variable (checked : connection.Checked)

include checked

theorem Checked.attempted : (connection.attemptConnect.1).Checked := by
  refine ⟨(attemptConnect_spec checked.kept).1, ?_⟩
  unfold attemptConnect
  split <;> exact checked.given

theorem refines_start (request : SupervisionRequest) :
    Refines connection (supervision.start connection request).1 := by
  have ⟨kept, given⟩ := checked
  cases request with
  | start =>
    change Refines connection connection.start.1
    rw [start_eq]
    split
    · rename_i off
      have begun : ({ connection with
          stopped := false, history := connection.history ++ [.start] } :
            SupervisedConnection).Checked := ⟨⟨kept.timeouts, kept.intervals, nofun⟩, given⟩
      exact ⟨begun.attempted, manager_attemptConnect ▸ .start off⟩
    · exact ⟨⟨⟨kept.timeouts, kept.intervals, kept.off⟩, given⟩, .keep⟩
  | stop =>
    refine ⟨?_, manager_stop kept ▸ .stop⟩
    change connection.stop.1.Checked
    rcases stop_spec kept with ⟨_, _, timeouts, intervals, ⟨_, stops⟩ | ⟨_, stops⟩⟩ <;>
      rw [stops] <;> exact ⟨⟨timeouts, intervals, fun _ => ⟨rfl, rfl⟩⟩, given⟩
  | markConnected =>
    refine ⟨?_, manager_markConnected given ▸ .markConnected⟩
    rcases markConnected_spec kept with ⟨_, _, intervals, marked⟩
    change connection.markConnected.Checked
    rw [marked]
    exact ⟨⟨kept.timeouts, intervals, nofun⟩, given⟩
  | reportDisconnected lost =>
    refine ⟨?_, manager_reportDisconnected lost ▸ .reportDisconnected⟩
    change (connection.reportDisconnected lost).Checked
    rcases reportDisconnected_spec kept lost with
      ⟨_, told⟩ | ⟨on, _, _, _, _, timeouts, intervals, told⟩ <;> rw [told]
    · exact ⟨⟨kept.timeouts, kept.intervals, kept.off⟩, given⟩
    · exact ⟨⟨timeouts, intervals, fun off => by simp [on] at off⟩, given⟩
  | reconnectTimer handle =>
    change Refines connection (if handle ∈ _ then _ else (connection, [])).1
    split
    · rename_i armed
      have fired : ({ connection with
          timeouts := connection.timeouts.clear handle, reconnectTimer := none } :
            SupervisedConnection).Checked :=
        ⟨⟨kept.timeouts.fired armed, kept.intervals, fun off => ⟨rfl, (kept.off off).2⟩⟩, given⟩
      refine ⟨fired.attempted, manager_attemptConnect ▸ .attempt ?_⟩
      simp [manager, kept.timeouts.field_eq armed]
    · exact ⟨checked, .keep⟩
  | heartbeatTimer handle =>
    change Refines connection (if handle ∈ _ then _ else (connection, [])).1
    split <;> exact ⟨checked, .keep⟩

theorem refines_resume {call : SupervisionCall} {fulfilled : Bool}
    {outcome : SupervisedConnection × List SupervisionCall}
    (resumed : supervision.resume connection call fulfilled = some outcome) :
    Refines connection outcome.1 := by
  have ⟨kept, given⟩ := checked
  cases call with
  | connecting =>
    cases fulfilled <;> cases resumed
    · exact ⟨checked, .keep⟩
    · exact ⟨⟨⟨kept.timeouts, kept.intervals, kept.off⟩, given⟩, .keep⟩
  | connectResolved number =>
    cases resumed
    have resolved := manager_connectResolved given
    rcases connectResolved_spec kept with ⟨off, same⟩ | ⟨on, _, _, intervals, same⟩
    · rw [if_pos off] at resolved
      refine ⟨?_, resolved ▸ .attemptIgnored off⟩
      simp only [same]
      exact ⟨⟨kept.timeouts, kept.intervals, kept.off⟩, given⟩
    · rw [if_neg (by simp [on])] at resolved
      refine ⟨?_, resolved ▸ .attemptSucceeded on⟩
      simp only [same]
      exact ⟨⟨kept.timeouts, intervals, fun off => by simp [on] at off⟩, given⟩
  | connectRejected =>
    cases resumed
    refine ⟨?_, manager_connectRejected kept ▸ .attemptFailed⟩
    rcases connectRejected_spec kept with ⟨timer, _, timeouts, armed, same⟩
    simp only [same]
    exact ⟨⟨timeouts, kept.intervals, fun off =>
      ⟨by simpa [show connection.stopped = true from off] using armed, (kept.off off).2⟩⟩, given⟩
  | stopping =>
    cases resumed
    exact ⟨⟨⟨kept.timeouts, kept.intervals, kept.off⟩, given⟩, .setDisconnected⟩
  | checking since =>
    cases fulfilled <;> cases resumed
    · refine ⟨?_, manager_degrade since ▸ .degrade⟩
      rcases degrade_spec kept since with ⟨_, intervals, same⟩
      simp only [same]
      exact ⟨⟨kept.timeouts, intervals, fun off => ⟨(kept.off off).1, rfl⟩⟩, given⟩
    · exact ⟨checked, .keep⟩
  | recovering =>
    cases resumed
    refine ⟨?_, manager_recover ▸ .recover⟩
    rcases recover_spec kept with ⟨timer, _, timeouts, armed, same⟩
    simp only [same]
    exact ⟨⟨timeouts, kept.intervals, fun off =>
      ⟨by simpa [show connection.stopped = true from off] using armed, (kept.off off).2⟩⟩, given⟩

end

theorem refines_step {config next : Config SupervisedConnection SupervisionCall}
    {label : Schedule SupervisionRequest Bool} (checked : config.shared.Checked)
    (taken : supervision.machine.step config label = some next) :
    Refines config.shared next.shared := by
  cases label with
  | call request =>
    obtain rfl := Program.step_call_eq_some.mp taken
    exact refines_start checked request
  | resume index fulfilled =>
    rcases Program.step_resume_eq_some.mp taken with ⟨_, _, _, _, _, _, _, resumed, rfl⟩
    exact refines_resume checked resumed

/-- Every step of every run is at most one operation of the manager. -/
theorem supervision_refines_manager (labels : List (Schedule SupervisionRequest Bool)) :
    supervision.machine.EachStep
      (fun config _ next => ManagerStep config.shared.manager next.shared.manager)
      (Program.idle (initial true)) labels := by
  have kept : ∀ config label next, config.shared.Checked →
      supervision.machine.step config label = some next → next.shared.Checked :=
    fun _ _ _ checked taken => (refines_step checked taken).checked
  exact Machine.eachStep_of_step kept (fun _ _ _ checked taken => (refines_step checked taken).step)
    ⟨timersKept_initial true, rfl⟩

end SupervisedConnection

end SupremeOs.Knx
