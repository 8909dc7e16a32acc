import SupremeOs.AvSdk.LineAccumulator
import SupremeOs.Support.Cells
import SupremeOs.Support.Machine
import Mathlib.Algebra.Group.Nat.Defs

/-!
# The line transport

For every key there is one link: a socket, the text it left unfinished, and a
scheduler that opens the next socket after a drop, later each time.  A command
that finds the link without a socket opens one as well.

Links and sockets are known by the order in which they are made.  A character
of a chunk carries the number of the socket it came on, which the transport
does not look at.  What a driver calls while it handles a connect or a line
comes after all that the transport does; diagnostics are left out.
-/

namespace SupremeOs.AvSdk

open Support

structure TcpLineTransportOptions where
  /-- The code units that end a line. -/
  delimiter : List UInt16
  reconnectBaseMs : Option Nat
  reconnectMaxMs : Option Nat

structure ReconnectScheduler where
  attempts : Nat
  /-- The delay of the timer that is set. -/
  timer : Option Nat
  stopped : Bool
deriving DecidableEq

namespace ReconnectScheduler

def constructed : ReconnectScheduler := ⟨0, none, false⟩

def scheduleNext (options : TcpLineTransportOptions) (scheduler : ReconnectScheduler) :
    ReconnectScheduler :=
  let base := options.reconnectBaseMs.getD 2000
  let max := options.reconnectMaxMs.getD 60000
  { scheduler with
    attempts := scheduler.attempts + 1
    timer := some (min max (base * 2 ^ min scheduler.attempts 10)) }

def notifyDisconnected (options : TcpLineTransportOptions) (scheduler : ReconnectScheduler) :
    ReconnectScheduler :=
  if scheduler.stopped || scheduler.timer.isSome then scheduler
  else scheduler.scheduleNext options

def reset (scheduler : ReconnectScheduler) : ReconnectScheduler :=
  { scheduler with attempts := 0, timer := none }

def stop (scheduler : ReconnectScheduler) : ReconnectScheduler :=
  reset { scheduler with stopped := true }

end ReconnectScheduler

/-- A code unit of a chunk, and the socket it came on. -/
structure Received where
  unit : UInt16
  socket : Nat
deriving DecidableEq

structure TcpLink where
  socket : Option Nat
  ready : Bool
  buffer : List Received
  reconnect : ReconnectScheduler
  /-- Where the scheduler connects to. -/
  key : String
  host : String
  port : Nat
deriving DecidableEq

structure Socket where
  key : String
  host : String
  port : Nat
  /-- The link it was made for. -/
  link : Nat
  /-- It has emitted `connect`. -/
  connected : Bool
  destroyed : Bool
  /-- It has emitted `close`. -/
  closed : Bool
deriving DecidableEq

def Socket.isOpen (socket : Socket) : Bool := !socket.destroyed && !socket.closed

structure LineEvent where
  key : String
  host : String
  port : Nat
  link : Nat
  line : List Received
deriving DecidableEq

structure TcpLineTransport where
  links : OrderedMap String Nat
  linkObjects : List TcpLink
  sockets : List Socket
  /-- The calls of `onLine`. -/
  lines : List LineEvent

namespace TcpLineTransport

def constructed : TcpLineTransport := ⟨.empty, [], [], []⟩

def changeLink (number : Nat) (change : TcpLink → TcpLink) (transport : TcpLineTransport) :
    TcpLineTransport :=
  { transport with linkObjects := transport.linkObjects.modify number change }

def changeSocket (number : Nat) (change : Socket → Socket) (transport : TcpLineTransport) :
    TcpLineTransport :=
  { transport with sockets := transport.sockets.modify number change }

/-- `link.socket && !link.socket.destroyed`. -/
def hasSocket (number : Nat) (transport : TcpLineTransport) : Bool :=
  match transport.linkObjects[number]?.bind TcpLink.socket with
  | some current => transport.sockets[current]?.any fun socket => !socket.destroyed
  | none => false

def openSocket (number : Nat) (key host : String) (port : Nat) (made : Bool)
    (transport : TcpLineTransport) : TcpLineTransport :=
  let unready := transport.changeLink number fun link => { link with ready := false }
  if made then
    { unready.changeLink number fun link =>
        { link with socket := some transport.sockets.length } with
      sockets := transport.sockets ++ [⟨key, host, port, number, false, false, false⟩] }
  else unready

def ensureLink (key host : String) (port : Nat) (made : Bool) (transport : TcpLineTransport) :
    TcpLineTransport :=
  match transport.links.get key with
  | some number =>
    if transport.hasSocket number then transport
    else transport.openSocket number key host port made
  | none =>
    let number := transport.linkObjects.length
    openSocket number key host port made
      { transport with
        links := transport.links.set key number
        linkObjects := transport.linkObjects ++ [⟨none, false, [], .constructed, key, host, port⟩] }

def tearDown (transport : TcpLineTransport) (number : Nat) : TcpLineTransport :=
  let stopped := transport.changeLink number fun link =>
    { link with reconnect := link.reconnect.stop }
  match transport.linkObjects[number]?.bind TcpLink.socket with
  | some current => stopped.changeSocket current fun socket => { socket with destroyed := true }
  | none => stopped

def releaseKey (key : String) (transport : TcpLineTransport) : TcpLineTransport :=
  match transport.links.get key with
  | some number => { transport.tearDown number with links := transport.links.delete key }
  | none => transport

def disconnectAll (transport : TcpLineTransport) : TcpLineTransport :=
  { transport.links.values.foldl tearDown transport with links := .empty }

def onConnect (number : Nat) (socket : Socket) (transport : TcpLineTransport) :
    TcpLineTransport :=
  (transport.changeSocket number fun socket => { socket with connected := true }).changeLink
    socket.link fun link => { link with ready := true, reconnect := link.reconnect.reset }

/-- Only a link whose socket this is takes note. -/
def dropped (options : TcpLineTransportOptions) (number : Nat) (link : TcpLink) : TcpLink :=
  if link.socket = some number then
    { link with
      socket := none
      ready := false
      reconnect := link.reconnect.notifyDisconnected options }
  else link

def onClose (options : TcpLineTransportOptions) (number : Nat) (socket : Socket)
    (transport : TcpLineTransport) : TcpLineTransport :=
  let closed := transport.changeSocket number fun socket => { socket with closed := true }
  match closed.links.get socket.key with
  | some link => closed.changeLink link (dropped options number)
  | none => closed

def linkOf (key : String) (transport : TcpLineTransport) : Option TcpLink :=
  (transport.links.get key).bind fun number => transport.linkObjects[number]?

def onData (options : TcpLineTransportOptions) (number : Nat) (socket : Socket)
    (chunk : List UInt16) (transport : TcpLineTransport) : TcpLineTransport :=
  match transport.links.get socket.key, transport.linkOf socket.key with
  | some place, some link =>
    let (buffer, lines) :=
      feed Received.unit options.delimiter link.buffer (chunk.map fun unit => ⟨unit, number⟩)
    { transport.changeLink place fun link => { link with buffer := buffer } with
      lines := transport.lines ++ lines.map fun line =>
        ⟨socket.key, socket.host, socket.port, place, line⟩ }
  | _, _ => transport

/-- The timer of a scheduler goes off; an attempt that fails sets the next timer. -/
def onReconnectTimer (options : TcpLineTransportOptions) (number : Nat) (link : TcpLink)
    (made : Bool) (transport : TcpLineTransport) : TcpLineTransport :=
  let changeScheduler (change : ReconnectScheduler → ReconnectScheduler) :=
    changeLink number fun link => { link with reconnect := change link.reconnect }
  let fired := changeScheduler (fun scheduler => { scheduler with timer := none }) transport
  if link.reconnect.stopped then fired
  else
    match fired.links.get link.key with
    | some current =>
      let attempted := fired.openSocket current link.key link.host link.port made
      if made then attempted
      else changeScheduler (ReconnectScheduler.scheduleNext options) attempted
    | none => fired

end TcpLineTransport

inductive TransportLabel where
  /-- `made` says whether a socket can be made, should one be needed. -/
  | ensureLink (key host : String) (port : Nat) (made : Bool)
  | releaseKey (key : String)
  | disconnectAll
  | connect (socket : Nat)
  | data (socket : Nat) (chunk : List UInt16)
  | error (socket : Nat)
  /-- The connection ended or could not be made, and its socket is destroyed. -/
  | lost (socket : Nat)
  | close (socket : Nat)
  | reconnectTimer (link : Nat) (made : Bool)
deriving DecidableEq

namespace TcpLineTransport

/-- What a socket emits and when; one that is destroyed emits no more than `error` and `close`. -/
def step (options : TcpLineTransportOptions) (transport : TcpLineTransport) :
    TransportLabel → Option TcpLineTransport
  | .ensureLink key host port made => some (transport.ensureLink key host port made)
  | .releaseKey key => some (transport.releaseKey key)
  | .disconnectAll => some transport.disconnectAll
  | .connect number =>
    match transport.sockets[number]? with
    | some socket =>
      if socket.isOpen && !socket.connected then some (transport.onConnect number socket)
      else none
    | none => none
  | .data number chunk =>
    match transport.sockets[number]? with
    | some socket =>
      if socket.isOpen && socket.connected then
        some (transport.onData options number socket chunk)
      else none
    | none => none
  | .error number =>
    match transport.sockets[number]? with
    | some socket => if socket.closed then none else some transport
    | none => none
  | .lost number =>
    match transport.sockets[number]? with
    | some socket =>
      if socket.isOpen then
        some (transport.changeSocket number fun socket => { socket with destroyed := true })
      else none
    | none => none
  | .close number =>
    match transport.sockets[number]? with
    | some socket =>
      if socket.destroyed && !socket.closed then
        some (transport.onClose options number socket)
      else none
    | none => none
  | .reconnectTimer number made =>
    match transport.linkObjects[number]? with
    | some link =>
      if link.reconnect.timer.isSome then
        some (transport.onReconnectTimer options number link made)
      else none
    | none => none

def machine (options : TcpLineTransportOptions) : Machine TcpLineTransport TransportLabel :=
  ⟨step options⟩

end TcpLineTransport

end SupremeOs.AvSdk
