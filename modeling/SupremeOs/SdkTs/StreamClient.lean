import SupremeOs.Support.Cells
import SupremeOs.Support.Histories
import SupremeOs.Support.Machine
import SupremeOs.Support.Timers

/-!
# The stream client

The client keeps a WebSocket to the hub and the set of rooms it has subscribed
to.  A socket that closes arms a timer that opens the next one, unless the
client was told to stop; a socket that opens asks for the rooms again.

Sockets are known by the order in which they are made.  A frame that is sent on
a socket that is not open is gone.  The handlers of the caller may call back
while a close is being handled, before the client looks whether to reconnect;
what the other handlers call comes after all that the client does.
-/

namespace SupremeOs.SdkTs

open Support

inductive ClientFrame where
  | subscribe (rooms : List String)
  | unsubscribe (rooms : List String)
  | ping
deriving DecidableEq

/-- The frames that are dispatched to handlers, and what is dispatched to none. -/
inductive ServerFrame where
  | state
  | ack
  | notification
  | driver
  | other

structure WebSocketLike where
  /-- It has emitted `open`. -/
  opened : Bool
  /-- The client has called `close()` on it. -/
  closing : Bool
  /-- It has emitted `close`. -/
  closed : Bool
  frames : List ClientFrame
deriving DecidableEq

namespace WebSocketLike

def created : WebSocketLike := ⟨false, false, false, []⟩

def isOpen (socket : WebSocketLike) : Bool := socket.opened && !socket.closing && !socket.closed

def send (frame : ClientFrame) (socket : WebSocketLike) : WebSocketLike :=
  if socket.isOpen then { socket with frames := socket.frames ++ [frame] } else socket

end WebSocketLike

structure SupremeStream where
  ws : Option Nat
  subscribedRooms : OrderedSet String
  reconnectEnabled : Bool
  backoffMs : Nat
  reconnectTimer : Option Nat
  stableTimer : Option Nat
  sockets : List WebSocketLike
  reconnectTimers : Timers
  stableTimers : Timers
  /-- The sockets whose frames a handler was given. -/
  received : List Nat

def baseBackoffMs : Nat := 1000

def maxBackoffMs : Nat := 30000

inductive StreamCall where
  | connect
  | close
  | subscribe (rooms : List String)
  | unsubscribe (rooms : List String)
  | ping

namespace SupremeStream

def constructed : SupremeStream :=
  ⟨none, .empty, false, baseBackoffMs, none, none, [], .none, .none, []⟩

def changeSocket (number : Nat) (change : WebSocketLike → WebSocketLike)
    (stream : SupremeStream) : SupremeStream :=
  { stream with sockets := stream.sockets.modify number change }

/-- `this.ws?.send(frame)`. -/
def send (frame : ClientFrame) (stream : SupremeStream) : SupremeStream :=
  match stream.ws with
  | some number => stream.changeSocket number (WebSocketLike.send frame)
  | none => stream

def openSocket (stream : SupremeStream) : SupremeStream :=
  { stream with
    ws := some stream.sockets.length
    sockets := stream.sockets ++ [.created] }

def connect (stream : SupremeStream) : SupremeStream :=
  openSocket { stream with reconnectEnabled := true }

def subscribe (rooms : List String) (stream : SupremeStream) : SupremeStream :=
  send (.subscribe rooms)
    { stream with
      subscribedRooms := rooms.foldl (fun set room => set.set room ()) stream.subscribedRooms }

def unsubscribe (rooms : List String) (stream : SupremeStream) : SupremeStream :=
  send (.unsubscribe rooms)
    { stream with
      subscribedRooms := rooms.foldl OrderedMap.delete stream.subscribedRooms }

def close (stream : SupremeStream) : SupremeStream :=
  let closing : SupremeStream :=
    match stream.ws with
    | some number => stream.changeSocket number fun socket => { socket with closing := true }
    | none => stream
  { closing with
    reconnectEnabled := false
    reconnectTimers := stream.reconnectTimers.clearField stream.reconnectTimer
    stableTimers := stream.stableTimers.clearField stream.stableTimer
    ws := none }

/-- A call; `connect` is called only when the client is stopped. -/
def perform (stream : SupremeStream) : StreamCall → Option SupremeStream
  | .connect => if stream.reconnectEnabled then none else some stream.connect
  | .close => some stream.close
  | .subscribe rooms => some (stream.subscribe rooms)
  | .unsubscribe rooms => some (stream.unsubscribe rooms)
  | .ping => some (stream.send .ping)

def onOpen (number : Nat) (stream : SupremeStream) : SupremeStream :=
  let opened := stream.changeSocket number fun socket => { socket with opened := true }
  let timed :=
    { opened with
      stableTimer := some opened.stableTimers.next
      stableTimers := opened.stableTimers.set }
  if timed.subscribedRooms.keys.isEmpty then timed
  else timed.send (.subscribe timed.subscribedRooms.keys)

/-- A close, up to the call of the handler. -/
def onClose (number : Nat) (stream : SupremeStream) : SupremeStream :=
  let closed := stream.changeSocket number fun socket => { socket with closed := true }
  { closed with
    stableTimer := none
    stableTimers := closed.stableTimers.clearField closed.stableTimer }

/-- A close, once the handler has returned. -/
def scheduleReconnect (stream : SupremeStream) : SupremeStream :=
  if stream.reconnectEnabled then
    { stream with
      reconnectTimer := some stream.reconnectTimers.next
      reconnectTimers := stream.reconnectTimers.set
      backoffMs := min (stream.backoffMs * 2) maxBackoffMs }
  else stream

def onMessage (number : Nat) (frame : ServerFrame) (stream : SupremeStream) : SupremeStream :=
  match frame with
  | .other => stream
  | .state | .ack | .notification | .driver =>
    { stream with received := stream.received ++ [number] }

def onReconnectTimer (handle : Nat) (stream : SupremeStream) : SupremeStream :=
  openSocket { stream with reconnectTimers := stream.reconnectTimers.clear handle }

def onStableTimer (handle : Nat) (stream : SupremeStream) : SupremeStream :=
  { stream with
    stableTimers := stream.stableTimers.clear handle
    backoffMs := baseBackoffMs }

end SupremeStream

inductive StreamLabel where
  | call (call : StreamCall)
  | opened (socket : Nat)
  /-- A socket closes, and the handler that is told so makes these calls. -/
  | closed (socket : Nat) (calls : List StreamCall)
  | message (socket : Nat) (frame : ServerFrame)
  | reconnectTimer (handle : Nat)
  | stableTimer (handle : Nat)

namespace SupremeStream

def step (stream : SupremeStream) : StreamLabel → Option SupremeStream
  | .call call => stream.perform call
  | .opened number =>
    match stream.sockets[number]? with
    | some socket => if socket.opened || socket.closed then none else some (stream.onOpen number)
    | none => none
  | .closed number calls =>
    match stream.sockets[number]? with
    | some socket =>
      if socket.closed then none
      else (calls.foldlM perform (stream.onClose number)).map scheduleReconnect
    | none => none
  | .message number frame =>
    match stream.sockets[number]? with
    | some socket =>
      if socket.opened && !socket.closed then some (stream.onMessage number frame) else none
    | none => none
  | .reconnectTimer handle =>
    if handle ∈ stream.reconnectTimers.armed then some (stream.onReconnectTimer handle)
    else none
  | .stableTimer handle =>
    if handle ∈ stream.stableTimers.armed then some (stream.onStableTimer handle) else none

def callsOf : StreamLabel → List StreamCall
  | .call call => [call]
  | .closed _ calls => calls
  | .opened _ | .message _ _ | .reconnectTimer _ | .stableTimer _ => []

/-- The client, with the calls that were made. -/
def machine : Machine (SupremeStream × List StreamCall) StreamLabel :=
  Machine.recording ⟨step⟩ fun _ label _ history => history ++ callsOf label

end SupremeStream

end SupremeOs.SdkTs
