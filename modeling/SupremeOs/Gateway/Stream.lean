import SupremeOs.DomainModel.Capabilities
import SupremeOs.Messaging.Presence
import SupremeOs.Support.Interleaving

/-!
# The realtime stream

A socket that connects is authenticated and the home is read; then the user is
marked as online, four subscribers of the connection are registered, and only
then its messages and its closing are listened to.  A socket event without a
listener is gone.

For a state event each registered connection awaits the room of the device and
the permission of its user, draws the next number of the device, reads the home
and sends the frame.

How far a connection has come is part of its state; what is awaited for single
events and frames is pending.

Connections are known by the order in which they open.  Emitted state events
are counted, and a connection keeps the client frames that have arrived and
those that have been handled; diagnostics of single drivers are left out.
-/

namespace SupremeOs.Gateway

open Support DomainModel Messaging

inductive ClientFrame where
  | subscribe (rooms : List String)
  | unsubscribe (rooms : List String)
  | ping
  | command (requestId : String) (deviceId : DeviceId) (command : CapabilityCommand)

structure StateEvent where
  deviceId : DeviceId
  state : CapabilityState
  provenance : Option StateProvenance
  ts : String

structure StateDelta where
  homeId : String
  roomId : Option String
  deviceId : DeviceId
  state : CapabilityState
  provenance : StateProvenance
  seq : Nat
  ts : String
  /-- Which of the emitted events it is; no part of the frame. -/
  number : Nat
deriving DecidableEq

/-- The snapshot of a scene run, as far as it is read here. -/
structure SceneRunSnapshot where
  sceneId : String
  spaceIds : List String
  stepRooms : List (Option String)

inductive NotificationLevel where
  | info
  | warning
  | critical

structure Notification where
  userId : Option String
  level : NotificationLevel
  title : String
  body : String
  createdAt : String

inductive DriverConnectionState where
  | disconnected
  | connecting
  | connected
  | disconnecting
  | error

structure DriverStateEvent where
  driverId : String
  state : DriverConnectionState
  error : Option String
  ts : String

inductive ServerFrame where
  | error (code message : String)
  | state (delta : StateDelta)
  | run (run : SceneRunSnapshot) (ts : Nat)
  | notification (level : NotificationLevel) (title body ts : String)
  | pong (ts : Nat)
  | ack (requestId : String) (accepted : Bool) (error : Option String)
  | driver (event : DriverStateEvent)

/-- How far the handling of a connection has come. -/
inductive ConnectionPhase where
  | authenticating
  | unauthorized
  | gettingHome (user : String)
  /-- The home could not be read; nothing is ever listened to. -/
  | abandoned (user : String)
  | attached (user presenceHomeId : String)

def ConnectionPhase.user : ConnectionPhase → Option String
  | .authenticating | .unauthorized => none
  | .gettingHome user | .abandoned user | .attached user _ => some user

structure Connection where
  phase : ConnectionPhase
  isOpen : Bool
  subscribedRooms : OrderedSet String
  seqByDevice : OrderedMap DeviceId Nat
  sent : List ServerFrame
  /-- The client frames that have arrived; `none` is malformed. -/
  received : List (Option ClientFrame)
  handled : List (Option ClientFrame)

namespace Connection

def opened : Connection where
  phase := .authenticating
  isOpen := true
  subscribedRooms := OrderedMap.empty
  seqByDevice := OrderedMap.empty
  sent := []
  received := []
  handled := []

def send (frame : ServerFrame) (connection : Connection) : Connection :=
  if connection.isOpen then { connection with sent := connection.sent ++ [frame] }
  else connection

def close (connection : Connection) : Connection := { connection with isOpen := false }

/-- `subscribedRooms.has("*") || (roomId !== null && subscribedRooms.has(roomId))`. -/
def isScoped (connection : Connection) (roomId : Option String) : Bool :=
  connection.subscribedRooms.has "*" || roomId.any connection.subscribedRooms.has

/-- The last number of a device that has been drawn. -/
def seqOf (connection : Connection) (deviceId : DeviceId) : Nat :=
  (connection.seqByDevice.get deviceId).getD 0

def draw (deviceId : DeviceId) (connection : Connection) : Connection :=
  { connection with
    seqByDevice := connection.seqByDevice.set deviceId (connection.seqOf deviceId + 1) }

def subscribeRooms (rooms : OrderedSet String) : Option ClientFrame → OrderedSet String
  | some (.subscribe added) => added.foldl (fun rooms room => rooms.set room ()) rooms
  | some (.unsubscribe removed) => removed.foldl OrderedMap.delete rooms
  | some .ping | some (.command _ _ _) | none => rooms

def answer (now : Nat) (frame : Option ClientFrame) (connection : Connection) : Connection :=
  match frame with
  | none => connection.send (.error "validation_failed" "malformed frame")
  | some .ping => connection.send (.pong now)
  | some (.subscribe _) | some (.unsubscribe _) | some (.command _ _ _) => connection

/-- `handleFrame` up to its first await. -/
def handleFrame (now : Nat) (frame : Option ClientFrame) (connection : Connection) : Connection :=
  let rooms := subscribeRooms connection.subscribedRooms frame
  { connection.answer now frame with
    subscribedRooms := rooms
    handled := connection.handled ++ [frame] }

def receive (frame : Option ClientFrame) (connection : Connection) : Connection :=
  { connection with received := connection.received ++ [frame] }

def acknowledge (requestId : String) (error : Option String) : Connection → Connection :=
  send (.ack requestId error.isNone error)

end Connection

structure Stream where
  homeId : String
  now : Nat
  presence : InMemoryPresenceStore
  stateSubs : OrderedSet Nat
  sceneRunSubs : OrderedSet Nat
  notifySubs : OrderedSet Nat
  driverStateSubs : OrderedSet Nat
  /-- How many state events have been emitted. -/
  emitted : Nat
  connections : List Connection

inductive StreamReply where
  | user (id : String)
  | home (id : Option String)
  | room (id : Option String)
  /-- The permission of the user, or whether there is such a device. -/
  | verdict (positive : Bool)
  | done
  /-- An error, with its message if it is one of our own. -/
  | rejected (message : Option String)
deriving DecidableEq

inductive StreamRequest where
  | connect
  /-- What a connection awaits before it is attached settles. -/
  | settle (id : Nat) (reply : StreamReply)
  | frame (id : Nat) (frame : Option ClientFrame)
  | close (id : Nat)
  | stateEvent (event : StateEvent)
  | sceneRun (run : SceneRunSnapshot)
  | notification (notification : Notification)
  | driverState (event : DriverStateEvent)
  /-- The energy engine asks who is online. -/
  | online
  | tick (milliseconds : Nat)

/-- The awaits of the handlers of events and frames, each with its connection. -/
inductive StreamCall where
  | roomOf (id : Nat) (number : Nat) (event : StateEvent)
  | canView (id : Nat) (number : Nat) (event : StateEvent) (roomId : Option String)
  | getFrameHome (id : Nat) (number : Nat) (event : StateEvent) (roomId : Option String)
      (seq : Nat)
  | canViewRun (id : Nat) (run : SceneRunSnapshot)
  | canViewDriver (id : Nat) (event : DriverStateEvent)
  | getDevice (id : Nat) (requestId : String) (command : CapabilityCommand)
  | enforce (id : Nat) (requestId : String) (command : CapabilityCommand)
  | command (id : Nat) (requestId : String)

namespace Stream

/-- Nobody has connected. -/
def initial (homeId : String) (now : Nat) : Stream where
  homeId := homeId
  now := now
  presence := InMemoryPresenceStore.empty
  stateSubs := OrderedMap.empty
  sceneRunSubs := OrderedMap.empty
  notifySubs := OrderedMap.empty
  driverStateSubs := OrderedMap.empty
  emitted := 0
  connections := []

variable (stream : Stream)

def update (id : Nat) (change : Connection → Connection) : Stream :=
  { stream with connections := stream.connections.modify id change }

/-- The user is online, the subscribers are registered and the socket is listened to. -/
def attach (id : Nat) (user presenceHomeId : String) : Stream :=
  { stream.update id fun connection =>
      { connection with phase := .attached user presenceHomeId } with
    presence := stream.presence.markOnline stream.now presenceHomeId user DEFAULT_TTL
    stateSubs := stream.stateSubs.set id ()
    sceneRunSubs := stream.sceneRunSubs.set id ()
    notifySubs := stream.notifySubs.set id ()
    driverStateSubs := stream.driverStateSubs.set id () }

/-- The handler of the closing, which unregisters the subscribers. -/
def detach (id : Nat) (user presenceHomeId : String) : Stream :=
  { stream with
    presence := stream.presence.markOffline presenceHomeId user
    stateSubs := stream.stateSubs.delete id
    sceneRunSubs := stream.sceneRunSubs.delete id
    notifySubs := stream.notifySubs.delete id
    driverStateSubs := stream.driverStateSubs.delete id }

def settle (id : Nat) (reply : StreamReply) : Stream :=
  match stream.connections[id]? with
  | none => stream
  | some connection =>
    match connection.phase, reply with
    | .authenticating, .user user =>
      stream.update id fun connection => { connection with phase := .gettingHome user }
    | .authenticating, .rejected _ =>
      stream.update id fun connection =>
        { (connection.send (.error "unauthorized" "invalid stream token")).close with
          phase := .unauthorized }
    | .gettingHome user, .home homeId =>
      stream.attach id user (homeId.getD stream.homeId)
    | .gettingHome user, .rejected _ =>
      stream.update id fun connection => { connection with phase := .abandoned user }
    | _, _ => stream

/-- A frame arrives; nobody listens before the connection is attached. -/
def receive (stream : Stream) (id : Nat) (frame : Option ClientFrame) : Stream × List StreamCall :=
  match stream.connections[id]? with
  | none => (stream, [])
  | some connection =>
    if connection.isOpen then
      let arrived := stream.update id (Connection.receive frame)
      match connection.phase with
      | .attached _ _ =>
        (arrived.update id (Connection.handleFrame stream.now frame), match frame with
          | some (.command requestId _ command) => [.getDevice id requestId command]
          | some (.subscribe _) | some (.unsubscribe _) | some .ping | none => [])
      | .authenticating | .unauthorized | .gettingHome _ | .abandoned _ => (arrived, [])
    else (stream, [])

/-- The socket closes; nobody listens before the connection is attached. -/
def close (stream : Stream) (id : Nat) : Stream :=
  match stream.connections[id]? with
  | none => stream
  | some connection =>
    if connection.isOpen then
      match connection.phase with
      | .attached user presenceHomeId =>
        (stream.update id Connection.close).detach id user presenceHomeId
      | .authenticating | .unauthorized | .gettingHome _ | .abandoned _ =>
        stream.update id Connection.close
    else stream

/-- A notification is sent at once to those it is for. -/
def notify (notification : Notification) : Stream :=
  stream.notifySubs.keys.foldl
    (fun stream id => stream.update id fun connection =>
      if notification.userId = none ∨ notification.userId = connection.phase.user then
        connection.send (.notification notification.level notification.title notification.body
          notification.createdAt)
      else connection)
    stream

def runRooms (run : SceneRunSnapshot) : List String :=
  run.spaceIds ++ run.stepRooms.filterMap id

def start : StreamRequest → Stream × List StreamCall
  | .connect => ({ stream with connections := stream.connections ++ [.opened] }, [])
  | .settle id reply => (stream.settle id reply, [])
  | .frame id frame => stream.receive id frame
  | .close id => (stream.close id, [])
  | .stateEvent event =>
    ({ stream with emitted := stream.emitted + 1 },
      stream.stateSubs.keys.map fun id => .roomOf id stream.emitted event)
  | .sceneRun run =>
    (stream, (stream.sceneRunSubs.keys.filter fun id =>
      stream.connections[id]?.any fun connection =>
        connection.subscribedRooms.has "*" || (runRooms run).any connection.subscribedRooms.has
      ).map fun id => .canViewRun id run)
  | .notification notification => (stream.notify notification, [])
  | .driverState event =>
    (stream, stream.driverStateSubs.keys.map fun id => .canViewDriver id event)
  | .online => ({ stream with presence := stream.presence.pruned stream.now stream.homeId }, [])
  | .tick milliseconds => ({ stream with now := stream.now + milliseconds }, [])

/-- The frame of a state event for a connection. -/
def delta (number : Nat) (event : StateEvent) (roomId homeId : Option String) (seq : Nat) :
    StateDelta where
  homeId := homeId.getD ""
  roomId := roomId
  deviceId := event.deviceId
  state := event.state
  provenance := event.provenance.getD .observed
  seq := seq
  ts := event.ts
  number := number

def commandError (message : Option String) : String := message.getD "command failed"

/-- An await settles, and its handler goes on to the next one. -/
def resume : StreamCall → StreamReply → Option (Stream × List StreamCall)
  | .roomOf id number event, .room roomId =>
    some (stream, if stream.connections[id]?.any fun connection => connection.isScoped roomId then
        [.canView id number event roomId]
      else [])
  | .canView id number event roomId, .verdict true =>
    match stream.connections[id]? with
    | none => none
    | some connection =>
      some (stream.update id (Connection.draw event.deviceId),
        [.getFrameHome id number event roomId (connection.seqOf event.deviceId + 1)])
  | .canView _ _ _ _, .verdict false => some (stream, [])
  | .getFrameHome id number event roomId seq, .home homeId =>
    some (stream.update id (Connection.send (.state (delta number event roomId homeId seq))), [])
  | .canViewRun id run, .verdict allowed =>
    some (if allowed then stream.update id (Connection.send (.run run stream.now)) else stream, [])
  | .canViewDriver id event, .verdict allowed =>
    some (if allowed then stream.update id (Connection.send (.driver event)) else stream, [])
  | .getDevice id requestId command, .verdict true =>
    some (stream, [.enforce id requestId command])
  | .getDevice id requestId _, .verdict false =>
    some (stream.update id (Connection.acknowledge requestId (some "device not found")), [])
  | .enforce id requestId _, .done => some (stream, [.command id requestId])
  | .command id requestId, .done =>
    some (stream.update id (Connection.acknowledge requestId none), [])
  | .getDevice id requestId _, .rejected message | .enforce id requestId _, .rejected message
  | .command id requestId, .rejected message =>
    some (stream.update id (Connection.acknowledge requestId (some (commandError message))), [])
  -- nothing catches the error of a subscriber
  | .roomOf _ _ _, .rejected _ | .canView _ _ _ _, .rejected _
  | .getFrameHome _ _ _ _ _, .rejected _ | .canViewRun _ _, .rejected _
  | .canViewDriver _ _, .rejected _ => some (stream, [])
  | _, _ => none

end Stream

/-- The handlers of the stream, segment by segment. -/
def streamProgram : Program Stream StreamRequest StreamCall StreamReply where
  start := Stream.start
  resume := Stream.resume

def ServerFrame.delta : ServerFrame → Option StateDelta
  | .state delta => some delta
  | .error _ _ | .run _ _ | .notification _ _ _ _ | .pong _ | .ack _ _ _ | .driver _ => none

/-- A number has been drawn, and its frame is still to be sent. -/
def StreamCall.hasDrawn : StreamCall → Bool
  | .getFrameHome _ _ _ _ _ => true
  | .roomOf _ _ _ | .canView _ _ _ _ | .canViewRun _ _ | .canViewDriver _ _ | .getDevice _ _ _
  | .enforce _ _ _ | .command _ _ => false

/-- What a handler does that neither draws a number nor has drawn one. -/
structure OnlySends (stream : Stream) (call : StreamCall) (next : Stream)
    (more : List StreamCall) : Prop where
  undrawn : call.hasDrawn = false
  next : next = stream ∨ ∃ id frame, frame.delta = none ∧
    next = stream.update id (Connection.send frame)
  more : ∀ other ∈ more, other.hasDrawn = false

/-- The ways in which a handler goes on. -/
inductive Resumed (stream : Stream) :
    StreamCall → StreamReply → Stream → List StreamCall → Prop where
  | draws (id number : Nat) (event : StateEvent) (roomId : Option String)
      (connection : Connection) (found : stream.connections[id]? = some connection) :
      Resumed stream (.canView id number event roomId) (.verdict true)
        (stream.update id (Connection.draw event.deviceId))
        [.getFrameHome id number event roomId (connection.seqOf event.deviceId + 1)]
  | sends (id number : Nat) (event : StateEvent) (roomId homeId : Option String) (seq : Nat) :
      Resumed stream (.getFrameHome id number event roomId seq) (.home homeId)
        (stream.update id
          (Connection.send (.state (Stream.delta number event roomId homeId seq)))) []
  | loses (id number : Nat) (event : StateEvent) (roomId : Option String) (seq : Nat)
      (message : Option String) :
      Resumed stream (.getFrameHome id number event roomId seq) (.rejected message) stream []
  | other {call : StreamCall} {reply : StreamReply} {next : Stream} {more : List StreamCall}
      (only : OnlySends stream call next more) : Resumed stream call reply next more

theorem resumed_of_resume {stream next : Stream} {call : StreamCall} {reply : StreamReply}
    {more : List StreamCall} (resumed : stream.resume call reply = some (next, more)) :
    Resumed stream call reply next more := by
  cases call with
  | roomOf id number event =>
    cases reply with
    | room roomId =>
      simp only [Stream.resume, Option.some.injEq, Prod.mk.injEq] at resumed
      obtain ⟨rfl, rfl⟩ := resumed
      refine .other ⟨rfl, .inl rfl, ?_⟩
      split <;> simp [StreamCall.hasDrawn]
    | rejected message => cases resumed; exact .other ⟨rfl, .inl rfl, by simp⟩
    | user _ | home _ | verdict _ | done => cases resumed
  | canView id number event roomId =>
    cases reply with
    | verdict allowed =>
      cases allowed with
      | true =>
        simp only [Stream.resume] at resumed
        split at resumed
        · cases resumed
        · rename_i connection found
          cases resumed
          exact .draws id number event roomId connection found
      | false => cases resumed; exact .other ⟨rfl, .inl rfl, by simp⟩
    | rejected message => cases resumed; exact .other ⟨rfl, .inl rfl, by simp⟩
    | user _ | home _ | room _ | done => cases resumed
  | getFrameHome id number event roomId seq =>
    cases reply with
    | home homeId => cases resumed; exact .sends id number event roomId homeId seq
    | rejected message => cases resumed; exact .loses id number event roomId seq message
    | user _ | room _ | verdict _ | done => cases resumed
  | canViewRun id run =>
    cases reply with
    | verdict allowed =>
      cases allowed with
      | true => cases resumed; exact .other ⟨rfl, .inr ⟨id, _, rfl, rfl⟩, by simp⟩
      | false => cases resumed; exact .other ⟨rfl, .inl rfl, by simp⟩
    | rejected message => cases resumed; exact .other ⟨rfl, .inl rfl, by simp⟩
    | user _ | home _ | room _ | done => cases resumed
  | canViewDriver id event =>
    cases reply with
    | verdict allowed =>
      cases allowed with
      | true => cases resumed; exact .other ⟨rfl, .inr ⟨id, _, rfl, rfl⟩, by simp⟩
      | false => cases resumed; exact .other ⟨rfl, .inl rfl, by simp⟩
    | rejected message => cases resumed; exact .other ⟨rfl, .inl rfl, by simp⟩
    | user _ | home _ | room _ | done => cases resumed
  | getDevice id requestId command =>
    cases reply with
    | verdict found =>
      cases found with
      | true => cases resumed; exact .other ⟨rfl, .inl rfl, by simp [StreamCall.hasDrawn]⟩
      | false => cases resumed; exact .other ⟨rfl, .inr ⟨id, _, rfl, rfl⟩, by simp⟩
    | rejected message => cases resumed; exact .other ⟨rfl, .inr ⟨id, _, rfl, rfl⟩, by simp⟩
    | user _ | home _ | room _ | done => cases resumed
  | enforce id requestId command =>
    cases reply with
    | done => cases resumed; exact .other ⟨rfl, .inl rfl, by simp [StreamCall.hasDrawn]⟩
    | rejected message => cases resumed; exact .other ⟨rfl, .inr ⟨id, _, rfl, rfl⟩, by simp⟩
    | user _ | home _ | room _ | verdict _ => cases resumed
  | command id requestId =>
    cases reply with
    | done | rejected message =>
      cases resumed; exact .other ⟨rfl, .inr ⟨id, _, rfl, rfl⟩, by simp⟩
    | user _ | home _ | room _ | verdict _ => cases resumed

end SupremeOs.Gateway
