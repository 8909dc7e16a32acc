import SupremeOs.TunnelBroker.Requests

/-!
# The tunnels of the relay

A hub dials out and holds a socket; the relay forwards the requests of clients
over it.  A hub that dials again replaces its connection, and the requests that
wait on the old one stay there until they time out or the old socket closes.
What a hub sends is handled under the name of its home, whichever socket it
came on.

Requests, their identifiers and the answers to them are those of the tunnel
broker.
-/

namespace SupremeOs.Relay

open Support DomainModel TunnelBroker

structure Conn where
  home : String
  /-- What was sent over the socket. -/
  sent : List (String × TunnelRequest)
  pending : OrderedMap String Nat
  /-- Its unregister function was called. -/
  unregistered : Bool

structure TunnelRegistry where
  conns : OrderedMap String Nat
  connections : List Relay.Conn
  requests : List Request
  /-- Shared by all registries. -/
  counter : Nat

namespace TunnelRegistry

/-- A registry before anything happens; others may have counted before it. -/
def initial (counter : Nat) : TunnelRegistry := ⟨.empty, [], [], counter⟩

def changeConn (number : Nat) (change : Relay.Conn → Relay.Conn) (registry : TunnelRegistry) :
    TunnelRegistry :=
  { registry with connections := registry.connections.modify number change }

def changeRequest (number : Nat) (change : Request → Request) (registry : TunnelRegistry) :
    TunnelRegistry :=
  { registry with requests := registry.requests.modify number change }

def current (home : String) (registry : TunnelRegistry) : Option (Nat × Relay.Conn) :=
  (registry.conns.get home).bind fun number =>
    registry.connections[number]?.map fun conn => (number, conn)

def isOnline (home : String) (registry : TunnelRegistry) : Bool := registry.conns.has home

def register (home : String) (registry : TunnelRegistry) : TunnelRegistry :=
  { registry with
    conns := registry.conns.set home registry.connections.length
    connections := registry.connections ++ [⟨home, [], .empty, false⟩] }

/-- The function that `register` returned for a connection. -/
def unregister (number : Nat) (conn : Relay.Conn) (registry : TunnelRegistry) : TunnelRegistry :=
  { registry with
    conns :=
      if registry.conns.get conn.home = some number then registry.conns.delete conn.home
      else registry.conns
    requests :=
      Cells.modifyAll (Request.fail "tunnel closed") conn.pending.values registry.requests
    connections :=
      registry.connections.modify number fun conn => { conn with unregistered := true } }

/--
Handle a frame that came `over` a connection of a home, which the registry is
not told; `parsed` is what the text was parsed to, if it is JSON.  For `null`
the access to its kind throws, which changes nothing either.
-/
def handleMessage (home : String) (carrier : Nat) (parsed : Option Json)
    (registry : TunnelRegistry) : TunnelRegistry :=
  match registry.current home, parsed with
  | some (number, conn), some frame =>
    match frameKind frame, frameId frame with
    | some "res", some id =>
      match conn.pending.get id with
      | some pending =>
        (registry.changeConn number fun conn =>
          { conn with pending := conn.pending.delete id }).changeRequest pending
            fun request =>
              request.clearTimeout.settle
                (.resolved (frameResponse frame) ⟨home, carrier, frame⟩)
      | none => registry
    | _, _ => registry
  | _, _ => registry

/--
Forward a request over the connection of a home.  `failure` is what the send
throws, if it throws: it rejects the promise, and neither the timer nor the
entry of the request goes away.  Without a connection the promise that is
returned is rejected, and nothing is kept of it.
-/
def request (home : String) (req : TunnelRequest) (now : Nat) (failure : Option String)
    (registry : TunnelRegistry) : TunnelRegistry :=
  match registry.current home with
  | none => registry
  | some (number, _) =>
    let id := Broker.requestId now registry.counter
    let forwarded := fun conn : Relay.Conn =>
      { conn with
        pending := conn.pending.set id registry.requests.length
        sent := if failure.isNone then conn.sent ++ [(id, req)] else conn.sent }
    { registry with
      counter := registry.counter + 1
      requests := registry.requests ++
        [⟨home, number, id, .armed, failure.toList.map Settlement.rejected⟩]
      connections := registry.connections.modify number forwarded }

def timeout (number : Nat) (request : Request) (registry : TunnelRegistry) : TunnelRegistry :=
  (registry.changeConn request.connection fun conn =>
    { conn with pending := conn.pending.delete request.id }).changeRequest number Request.expire

end TunnelRegistry

inductive RelayLabel where
  | register (home : String)
  | unregister (connection : Nat)
  | request (home : String) (req : TunnelRequest) (now : Nat) (failure : Option String)
  | message (connection : Nat) (parsed : Option Json)
  | timeout (request : Nat)
  /-- Another registry forwards a request. -/
  | counted

namespace TunnelRegistry

/-- One call, or the expiry of a timer that is armed. -/
def step (registry : TunnelRegistry) : RelayLabel → Option TunnelRegistry
  | .register home => some (registry.register home)
  | .unregister number =>
    registry.connections[number]?.map fun conn => registry.unregister number conn
  | .request home req now failure => some (registry.request home req now failure)
  | .message number parsed =>
    registry.connections[number]?.map fun conn =>
      registry.handleMessage conn.home number parsed
  | .timeout number =>
    match registry.requests[number]? with
    | some request =>
      if request.timer = .armed then some (registry.timeout number request) else none
    | none => none
  | .counted => some { registry with counter := registry.counter + 1 }

def machine : Machine TunnelRegistry RelayLabel := ⟨step⟩

end TunnelRegistry

end SupremeOs.Relay
