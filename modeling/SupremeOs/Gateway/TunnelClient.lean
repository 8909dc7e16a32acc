import SupremeOs.Support.Cells
import SupremeOs.Support.Machine

/-!
# The hub's end of the tunnel

The hub dials out to the broker, answers its challenge and keeps the socket
open; a socket that closes arms a timer that dials again.  For each stream that
the broker opens, the hub dials its own gateway and relays between the two
sockets; what comes before the local socket is open is kept until then.

Sockets are known by the order in which they are made.  A socket emits `close`
once; it emits no message before it is open, nor once `close` has been called
on it, and what is sent into it then is gone.  Requests that are proxied share
only the broker socket and are left out.
-/

namespace SupremeOs.Gateway

open Support

inductive SocketPhase where
  | connecting
  | live
  /-- `close` has been called. -/
  | closing
  | closed
deriving DecidableEq

namespace SocketPhase

/-- What `close()` makes of a socket. -/
def close : SocketPhase → SocketPhase
  | connecting | live | closing => closing
  | closed => closed

/-- The socket is open or will be, as far as this side is concerned. -/
def isUp : SocketPhase → Bool
  | connecting | live => true
  | closing | closed => false

end SocketPhase

/-- What the broker sends; frames that lack a field are not acted upon. -/
inductive BrokerFrame where
  | challenge (nonce : String)
  | ready
  | streamOpen (id path : String)
  | streamData (id data : String)
  | streamClose (id : String)
  | other
deriving DecidableEq

inductive HubFrame where
  | auth (nonce : String)
  | streamData (id data : String)
  | streamClose (id : String)
deriving DecidableEq

/-- The stream that a frame to the broker is about. -/
def HubFrame.streamId : HubFrame → Option String
  | auth _ => none
  | streamData id _ | streamClose id => some id

/-- A socket to the hub's own gateway. -/
structure LocalSocket where
  streamId : String
  path : String
  /-- The broker socket that the stream was opened on. -/
  carrier : Nat
  phase : SocketPhase
  /-- What has been sent into it. -/
  sent : List String
deriving DecidableEq

namespace LocalSocket

def send (data : List String) (socket : LocalSocket) : LocalSocket :=
  if socket.phase = .live then { socket with sent := socket.sent ++ data } else socket

def close (socket : LocalSocket) : LocalSocket := { socket with phase := socket.phase.close }

end LocalSocket

structure TunnelClient where
  ws : Option Nat
  stopped : Bool
  authed : Bool
  localStreams : OrderedMap String Nat
  pendingStreamFrames : OrderedMap String (List String)
  /-- The sockets to the broker. -/
  sockets : List SocketPhase
  /-- How many reconnect timers are armed. -/
  timers : Nat
  locals : List LocalSocket
  /-- `start` has been called, and not `stop` since. -/
  started : Bool
  sent : List (Nat × HubFrame)
  received : List BrokerFrame
deriving DecidableEq

/-- What happens to a client, `start` apart. -/
inductive TunnelEvent where
  | stop
  | frame (socket : Nat) (frame : BrokerFrame)
  | brokerOpened (socket : Nat)
  | brokerClosed (socket : Nat)
  /-- A reconnect timer goes off. -/
  | reconnect
  | localOpened (socket : Nat)
  | localMessage (socket : Nat) (data : String)
  | localClosed (socket : Nat)

inductive TunnelLabel where
  | start
  | event (event : TunnelEvent)

namespace TunnelClient

def initial : TunnelClient :=
  ⟨none, false, false, OrderedMap.empty, OrderedMap.empty, [], 0, [], false, [], []⟩

variable (client : TunnelClient)

/-- `this.ws?.send(frame)`. -/
def send (frame : HubFrame) : TunnelClient :=
  match client.ws with
  | some socket => { client with sent := client.sent ++ [(socket, frame)] }
  | none => client

def connect : TunnelClient :=
  if client.stopped then client
  else
    { client with
      ws := some client.sockets.length
      authed := false
      sockets := client.sockets ++ [.connecting] }

def start : TunnelClient :=
  { client with stopped := false, started := true }.connect

def stop : TunnelClient :=
  { client with
    ws := none
    stopped := true
    localStreams := OrderedMap.empty
    sockets := Cells.modifyAll SocketPhase.close client.ws.toList client.sockets
    locals := Cells.modifyAll LocalSocket.close client.localStreams.values client.locals
    started := false }

def openLocalStream (carrier : Nat) (streamId path : String) : TunnelClient :=
  { client with locals := client.locals ++ [⟨streamId, path, carrier, .connecting, []⟩] }

/-- The local socket is open: it is listed, and gets what has been kept for it. -/
def localOpened (index : Nat) (streamId : String) : TunnelClient :=
  { client with
    localStreams := client.localStreams.set streamId index
    pendingStreamFrames := client.pendingStreamFrames.delete streamId
    locals := client.locals.modify index fun socket =>
      { socket with phase := .live }.send ((client.pendingStreamFrames.get streamId).getD []) }

def delist (index : Nat) (streamId : String) : TunnelClient :=
  { client with
    localStreams := client.localStreams.delete streamId
    locals := client.locals.modify index fun socket => { socket with phase := .closed } }

def localClosed (index : Nat) (streamId : String) : TunnelClient :=
  (client.delist index streamId).send (.streamClose streamId)

def relay (streamId data : String) : TunnelClient :=
  match client.localStreams.get streamId with
  | some index => { client with locals := client.locals.modify index (LocalSocket.send [data]) }
  | none =>
    { client with
      pendingStreamFrames := client.pendingStreamFrames.set streamId
        ((client.pendingStreamFrames.get streamId).getD [] ++ [data]) }

def closeStream (streamId : String) : TunnelClient :=
  { client with
    localStreams := client.localStreams.delete streamId
    pendingStreamFrames := client.pendingStreamFrames.delete streamId
    locals := Cells.modifyAll LocalSocket.close (client.localStreams.get streamId).toList
      client.locals }

def onFrame (socket : Nat) : BrokerFrame → TunnelClient
  | .challenge nonce => if nonce = "" then client else client.send (.auth nonce)
  | .ready => { client with authed := true }
  | .streamOpen id path =>
    if client.authed = true ∧ id ≠ "" ∧ path ≠ "" then client.openLocalStream socket id path
    else client
  | .streamData id data => if id = "" then client else client.relay id data
  | .streamClose id => if id = "" then client else client.closeStream id
  | .other => client

/-- A broker socket emits `close`; unless the client is stopped, a timer is armed. -/
def brokerClosed (socket : Nat) : TunnelClient :=
  { client with
    ws := if client.ws = some socket then none else client.ws
    sockets := client.sockets.modify socket fun _ => .closed
    timers := if client.stopped then client.timers else client.timers + 1 }

/-- What an event does, if it can happen. -/
def handle : TunnelEvent → Option TunnelClient
  | .stop => some client.stop
  | .frame socket frame =>
    if client.sockets[socket]? = some .live then
      some ({ client with received := client.received ++ [frame] }.onFrame socket frame)
    else none
  | .brokerOpened socket =>
    if client.sockets[socket]? = some .connecting then
      some { client with sockets := client.sockets.modify socket fun _ => .live }
    else none
  | .brokerClosed socket =>
    match client.sockets[socket]? with
    | none | some .closed => none
    | some _ => some (client.brokerClosed socket)
  | .reconnect =>
    match client.timers with
    | 0 => none
    | timers + 1 => some { client with timers := timers }.connect
  | .localOpened index =>
    match client.locals[index]? with
    | some ⟨streamId, _, _, .connecting, _⟩ => some (client.localOpened index streamId)
    | _ => none
  | .localMessage index data =>
    match client.locals[index]? with
    | some ⟨streamId, _, _, .live, _⟩ => some (client.send (.streamData streamId data))
    | _ => none
  | .localClosed index =>
    match client.locals[index]? with
    | none | some ⟨_, _, _, .closed, _⟩ => none
    | some socket => some (client.localClosed index socket.streamId)

end TunnelClient

/-- The client in operation, `start` being called only while it is stopped. -/
def tunnelMachine : Machine TunnelClient TunnelLabel where
  step
    | client, .start => if client.started then none else some client.start
    | client, .event event => client.handle event

def startedTunnelMachine : Machine TunnelClient TunnelEvent where
  step := TunnelClient.handle

end SupremeOs.Gateway
