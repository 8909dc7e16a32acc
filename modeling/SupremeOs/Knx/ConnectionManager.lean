import Mathlib.Data.List.Basic

/-!
# The supervision of a connection

The manager notices that a connection is lost and tries to establish it again
after a delay.  Its timers are pending or not; when a pending one goes off is
left open, and so is how long the delays are.

An operation of the source that waits is cut where it waits.
-/

namespace SupremeOs.Knx

inductive ConnectionState where
  | disconnected
  | connecting
  | connected
  | degraded
  | recovering
  | error
deriving DecidableEq

structure ConnectionManager where
  state : ConnectionState
  reconnectTimer : Bool
  heartbeatTimer : Bool
  stopped : Bool
  connecting : Bool
  reconnectAttempts : Nat

namespace ConnectionManager

def initial : ConnectionManager where
  state := .disconnected
  reconnectTimer := false
  heartbeatTimer := false
  stopped := true
  connecting := false
  reconnectAttempts := 0

variable (manager : ConnectionManager)

/-- Whether the state that follows is announced as a new one. -/
def announcesConnected : Bool :=
  decide (manager.state ≠ .connected)

def scheduleReconnect : ConnectionManager :=
  { manager with reconnectTimer := !manager.stopped }

def startHeartbeat : ConnectionManager :=
  { manager with heartbeatTimer := true }

/-- The part before the state changes; the heartbeat starts when the change has been announced. -/
def markConnected : ConnectionManager :=
  { manager with
    stopped := false
    connecting := false
    reconnectAttempts := 0
    state := .connected }

def reportDisconnected : ConnectionManager :=
  if manager.stopped ∨ manager.state ≠ .connected then manager
  else
    scheduleReconnect
      { manager with
        heartbeatTimer := false
        state := .error
        reconnectAttempts := manager.reconnectAttempts + 1 }

/-- What happens at once when supervision is stopped. -/
def stop : ConnectionManager :=
  { manager with stopped := true, reconnectTimer := false, heartbeatTimer := false }

/-- The end of stopping, after the disconnection. -/
def setDisconnected : ConnectionManager :=
  { manager with state := .disconnected }

def mayAttempt : Bool :=
  !manager.connecting && !manager.stopped

def attemptConnect : ConnectionManager :=
  if manager.mayAttempt then
    { manager with
      connecting := true
      state := if 0 < manager.reconnectAttempts then .recovering else .connecting }
  else manager

/-- The attempt went well, and supervision was not stopped meanwhile. -/
def attemptSucceeded : ConnectionManager :=
  { manager with
    connecting := false
    reconnectAttempts := 0
    state := .connected }

def attemptFailed : ConnectionManager :=
  scheduleReconnect
    { manager with
      connecting := false
      reconnectAttempts := manager.reconnectAttempts + 1
      state := .error }

/-- A heartbeat asks for the health of the connection only then. -/
def checksHealth : Bool :=
  !manager.stopped && decide (manager.state = .connected)

def degrade : ConnectionManager :=
  { manager with state := .degraded, heartbeatTimer := false }

def recover : ConnectionManager :=
  scheduleReconnect { manager with reconnectAttempts := manager.reconnectAttempts + 1 }

end ConnectionManager

end SupremeOs.Knx
