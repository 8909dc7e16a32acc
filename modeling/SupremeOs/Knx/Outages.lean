import SupremeOs.Knx.ConnectionManager
import SupremeOs.Knx.OfflineCommandQueue
import SupremeOs.Knx.SupremeKnxDriver
import SupremeOs.Support.Machine

/-!
# Commands across outages

The driver has a flag, its provider a client and the connection manager a
state, and they change at different moments: whatever waits is a task, and
other calls may run before it goes on.  A command is queued if the flag is down
and sent if it is up.  When the manager or the first connection announces that
there is a connection, the queue is drained, one command after the other.

The order of all commands, the ones accepted and the writes sent are recorded.
-/

namespace SupremeOs.Knx

open Support DomainModel

/-- The capabilities that a group write can be made for. -/
def isWritable : CapabilityKind → Bool
  | .onoff | .brightness | .position | .color | .lock | .temperature => true
  | _ => false

/-- Something that waits, by the place at which it does. -/
inductive Task where
  /-- `connect` waits for the provider's initialization. -/
  | connectStarts
  /-- `connect` waits for the handshake of a new client. -/
  | connectHandshake
  /-- The client is there; `connect` of the provider goes on. -/
  | connectResolved
  /-- `connect` of the provider has returned; the flag is still to be set. -/
  | connectReturns
  /-- `disconnect` waits, in the manager, for the client to disconnect. -/
  | disconnectStops
  /-- Supervision has stopped; the provider goes on to disconnect. -/
  | disconnectStopped
  /-- `disconnect` of the provider waits for the client to disconnect. -/
  | disconnectCloses
  /-- `disconnect` of the provider has returned; the flag is still to be cleared. -/
  | disconnectReturns
  /-- An attempt to reconnect waits for the handshake of a new client. -/
  | attemptHandshake
  /-- The client is there; the manager goes on. -/
  | attemptResolved
  /-- A heartbeat has found no client. -/
  | heartbeatFailed
  /-- The manager waits for the lost client to disconnect. -/
  | heartbeatDisconnects
  /-- A drain that began at `nowMs` has sent a command; these follow. -/
  | drain (nowMs : Nat) (items : List QueuedCommand)

/-- Whether the connection is still to be announced. -/
def Task.isResolved : Task → Bool
  | .connectResolved | .attemptResolved => true
  | _ => false

structure KnxSystem where
  bindings : List KnxDeviceBinding
  /-- The flag of the driver. -/
  connected : Bool
  offlineQueue : OfflineCommandQueue
  /-- Whether the provider has a client. -/
  client : Bool
  connectionManager : Option ConnectionManager
  now : Nat
  tasks : List Task
  /-- How many commands have been issued. -/
  issued : Nat
  /-- The commands whose call did not fail. -/
  accepted : List IssuedCommand
  /-- The commands that were given up for their age. -/
  expired : List IssuedCommand
  /-- The commands whose group write was sent. -/
  writes : List IssuedCommand
  /-- The commands that failed although there was no client when they were issued. -/
  rejectedOffline : List IssuedCommand

/-- What a task that goes on meets. -/
structure Outcome where
  /-- Whether the promise that was waited for is fulfilled. -/
  settles : Bool
  /-- Whether the first group read of a synchronization can be sent. -/
  reads : Bool
  /-- Whether the next group write can be sent. -/
  writes : Bool

namespace KnxSystem

def initial (bindings : List KnxDeviceBinding) : KnxSystem where
  bindings := bindings
  connected := false
  offlineQueue := OfflineCommandQueue.clear
  client := false
  connectionManager := none
  now := 0
  tasks := []
  issued := 0
  accepted := []
  expired := []
  writes := []
  rejectedOffline := []

variable (system : KnxSystem)

def spawn (task : Task) : KnxSystem :=
  { system with tasks := system.tasks ++ [task] }

def manage (change : ConnectionManager → ConnectionManager) : KnxSystem :=
  { system with connectionManager := system.connectionManager.map change }

/-- The client is gone and the manager is told. -/
def loseClient : KnxSystem :=
  { system with client := false }.manage ConnectionManager.reportDisconnected

def bindingOf (target : Target) : Option KnxDeviceBinding :=
  system.bindings.find? fun binding =>
    decide (binding.deviceId = target.deviceId ∧ binding.capability = target.capability)

/-- Whether the write of a command is sent. -/
def sends (issued : IssuedCommand) (works : Bool) : Bool :=
  isWritable issued.target.capability && system.client && works

/-- The command is sent, or fails; a write that fails takes the client with it. -/
def executeCommand (issued : IssuedCommand) (works : Bool) : KnxSystem :=
  if !isWritable issued.target.capability then system
  else if !system.client then system
  else if works then { system with writes := system.writes ++ [issued] }
  else system.loseClient

/-- Go through the commands up to the next one that is sent; one that fails ends the drain. -/
def drainFrom (system : KnxSystem) (nowMs : Nat) (works : Bool) : List QueuedCommand → KnxSystem
  | [] => system
  | item :: rest =>
    if item.isExpired nowMs then system.drainFrom nowMs works rest
    else
      match system.bindingOf item.issued.target with
      | none => system.spawn (.drain nowMs rest)
      | some _ =>
        let after := system.executeCommand item.issued works
        if system.sends item.issued works then after.spawn (.drain nowMs rest) else after

def drainOfflineQueue (works : Bool) : KnxSystem :=
  let items := system.offlineQueue.pending
  { system with
    offlineQueue := OfflineCommandQueue.clear
    expired := system.expired ++
      (items.filter (QueuedCommand.isExpired system.now)).map QueuedCommand.issued }.drainFrom
    system.now works items

/-- The listener of the driver: a synchronization begins, and a drain. -/
def onConnected (outcome : Outcome) : KnxSystem :=
  (if outcome.reads then system else system.loseClient).drainOfflineQueue outcome.writes

/-- A command for something that is not bound fails and changes nothing. -/
def command (system : KnxSystem) (deviceId : DeviceId) (command : CapabilityCommand)
    (works : Bool) : KnxSystem :=
  let issued : IssuedCommand := ⟨system.issued, deviceId, command⟩
  match system.bindingOf issued.target with
  | none => system
  | some _ =>
    if !system.connected then
      { system with
        issued := system.issued + 1
        offlineQueue := system.offlineQueue.enqueue issued system.now
        accepted := system.accepted ++ [issued] }
    else
      let after := { system with issued := system.issued + 1 }.executeCommand issued works
      if system.sends issued works then { after with accepted := after.accepted ++ [issued] }
      else if system.client then after
      else { after with rejectedOffline := after.rejectedOffline ++ [issued] }

def connect : KnxSystem :=
  if system.connected then system else system.spawn .connectStarts

def disconnect : KnxSystem :=
  match system.connectionManager with
  | none => system.spawn .disconnectStopped
  | some manager =>
    let stopping := { system with connectionManager := some manager.stop }
    if manager.state = .disconnected then stopping.spawn .disconnectStopped
    else stopping.spawn .disconnectStops

/-- The reconnect timer goes off. -/
def attemptConnect (system : KnxSystem) (manager : ConnectionManager) : KnxSystem :=
  let due := { manager with reconnectTimer := false }
  let trying := { system with connectionManager := some due.attemptConnect }
  if due.mayAttempt then trying.spawn .attemptHandshake else trying

def runHeartbeat (manager : ConnectionManager) : KnxSystem :=
  if manager.checksHealth && !system.client then system.spawn .heartbeatFailed else system

/-- The provider has connected for the first time, or again after a disconnection. -/
def connectResolved (outcome : Outcome) : KnxSystem :=
  let manager := system.connectionManager.getD ConnectionManager.initial
  let marked := { system with connectionManager := some manager.markConnected }
  let announced := if manager.announcesConnected then marked.onConnected outcome else marked
  ((announced.manage ConnectionManager.startHeartbeat).onConnected outcome).spawn .connectReturns

def attemptResolved (manager : ConnectionManager) (outcome : Outcome) : KnxSystem :=
  if manager.stopped then
    { system with connectionManager := some { manager with connecting := false } }
  else
    let marked := { system with connectionManager := some manager.attemptSucceeded }
    let announced := if manager.announcesConnected then marked.onConnected outcome else marked
    announced.manage ConnectionManager.startHeartbeat

/-- What a task does when it goes on; it is no longer among the tasks. -/
def resume (outcome : Outcome) : Task → KnxSystem
  | .connectStarts =>
    if system.client then system.spawn .connectReturns else system.spawn .connectHandshake
  | .connectHandshake =>
    if outcome.settles then { system with client := true }.spawn .connectResolved
    else { system with client := false }
  | .connectResolved => system.connectResolved outcome
  | .connectReturns => { system with connected := true }
  | .disconnectStops =>
    ((if outcome.settles then { system with client := false } else system).manage
      ConnectionManager.setDisconnected).spawn .disconnectStopped
  | .disconnectStopped => system.spawn .disconnectCloses
  | .disconnectCloses =>
    if outcome.settles then { system with client := false }.spawn .disconnectReturns else system
  | .disconnectReturns => { system with connected := false }
  | .attemptHandshake =>
    if outcome.settles then { system with client := true }.spawn .attemptResolved
    else { system with client := false }.manage ConnectionManager.attemptFailed
  | .attemptResolved =>
    match system.connectionManager with
    | none => system
    | some manager => system.attemptResolved manager outcome
  | .heartbeatFailed => (system.manage ConnectionManager.degrade).spawn .heartbeatDisconnects
  | .heartbeatDisconnects =>
    (if outcome.settles then { system with client := false } else system).manage
      ConnectionManager.recover
  | .drain nowMs items => system.drainFrom nowMs outcome.writes items

end KnxSystem

namespace Outage

inductive Label where
  | tick (ms : Nat)
  | command (deviceId : DeviceId) (command : CapabilityCommand) (works : Bool)
  | connect
  | disconnect
  /-- The client reports an error: the tunnel is lost. -/
  | connectionError
  | reconnectTimer
  | heartbeat
  /-- The task at a place goes on. -/
  | resume (place : Nat) (outcome : Outcome)

def machine : Machine KnxSystem Label where
  step system
    | .tick ms => some { system with now := system.now + ms }
    | .command deviceId command works => some (system.command deviceId command works)
    | .connect => some system.connect
    | .disconnect => some system.disconnect
    | .connectionError => some system.loseClient
    | .reconnectTimer =>
      match system.connectionManager with
      | none => none
      | some manager =>
        if manager.reconnectTimer then some (system.attemptConnect manager) else none
    | .heartbeat =>
      match system.connectionManager with
      | none => none
      | some manager =>
        if manager.heartbeatTimer then some (system.runHeartbeat manager) else none
    | .resume place outcome =>
      match system.tasks[place]? with
      | none => none
      | some task =>
        some ({ system with tasks := system.tasks.eraseIdx place }.resume outcome task)

end Outage

end SupremeOs.Knx
