import SupremeOs.DomainModel.Json
import SupremeOs.Support.Cells
import SupremeOs.Support.Machine

/-!
# The tunnel broker

A hub dials one connection to the broker.  Requests of clients are forwarded
over it, and streams are opened over it; the hub answers with frames.  A new
connection of a hub supersedes the old one.  A connection is detached by the
function that `attach` returned, when its socket closes, whether or not the
hub has a newer connection by then.

Connections, requests and streams are numbered in the order in which they are
made.  A request keeps what its promise has been settled with, and a stream
what has been called on it, together with the message that was the reason.
-/

namespace SupremeOs.TunnelBroker

open Support DomainModel

abbrev HubId := String

structure TunnelRequest where
  method : String
  path : String
  headers : List (String × String)
  body : Option String

/-- An answer with the fields that the hub sent, whatever they are. -/
structure TunnelResponse where
  status : Json
  headers : Json
  body : Json

inductive HubFrame where
  | req (id : String) (request : TunnelRequest)
  | streamOpen (id : String) (path : String)
  | streamData (id : String) (data : String)
  | streamClose (id : String)

/-- `frame.t`. -/
def frameKind (frame : Json) : Option String :=
  match frame.member "t" with
  | some (.text kind) => some kind
  | _ => none

/-- `frame.id`, if it can be the identifier of a request or of a stream. -/
def frameId (frame : Json) : Option String :=
  match frame.member "id" with
  | some (.text id) => if id = "" then none else some id
  | _ => none

/-- `frame.name ?? fallback`. -/
def memberOr (frame : Json) (name : String) (fallback : Json) : Json :=
  match frame.member name with
  | none => fallback
  | some .null => fallback
  | some value => value

/-- The status of a frame without one. -/
def badGateway : Json := .number (.nonzero false ⟨502, by decide⟩ 3)

def frameResponse (frame : Json) : TunnelResponse where
  status := memberOr frame "status" badGateway
  headers := memberOr frame "headers" (.object [])
  body := memberOr frame "body" (.text "")

inductive TimerState where
  | armed
  | cleared
  | expired
deriving DecidableEq

/-- The message that answered a request: whose it was, and over which connection it came. -/
structure Reply where
  hub : HubId
  connection : Nat
  frame : Json

inductive Settlement where
  | resolved (response : TunnelResponse) (reply : Reply)
  | rejected (reason : String)

/-- A forwarded request with its timer and with what its promise has been settled with. -/
structure Request where
  hub : HubId
  connection : Nat
  id : String
  timer : TimerState
  settlements : List Settlement

/-- A promise that has been settled stays as it is. -/
def Request.settle (settlement : Settlement) (request : Request) : Request :=
  match request.settlements with
  | [] => { request with settlements := [settlement] }
  | _ => request

def Request.clearTimeout (request : Request) : Request :=
  match request.timer with
  | .armed => { request with timer := .cleared }
  | _ => request

def Request.expire (request : Request) : Request :=
  { request with timer := .expired }.settle (.rejected "tunnel timeout")

def Request.fail (reason : String) (request : Request) : Request :=
  request.clearTimeout.settle (.rejected reason)

inductive CloseCause where
  | frame (hub : HubId)
  | superseded
  | detached

/-- What is called on a stream, by the broker or by the client. -/
inductive StreamEvent where
  | onData (hub : HubId) (data : Json)
  | onClose (cause : CloseCause) (code reason : Option Json)
  | close

structure Stream where
  hub : HubId
  connection : Nat
  id : String
  events : List StreamEvent

def Stream.note (event : StreamEvent) (stream : Stream) : Stream :=
  { stream with events := stream.events ++ [event] }

structure Conn where
  hub : HubId
  devicePublicKey : String
  sent : List HubFrame
  pending : OrderedMap String Nat
  streams : OrderedMap String Nat

structure Broker where
  conns : OrderedMap HubId Nat
  connections : List Conn
  requests : List Request
  streams : List Stream
  counter : Nat

namespace Broker

/-- The broker before anything happens; others may have counted before it. -/
def initial (counter : Nat) : Broker := ⟨OrderedMap.empty, [], [], [], counter⟩

def current (broker : Broker) (hub : HubId) : Option (Nat × Conn) :=
  (broker.conns.get hub).bind fun number =>
    broker.connections[number]?.map fun conn => (number, conn)

def isOnline (broker : Broker) (hub : HubId) : Bool := broker.conns.has hub

def getHubPublicKey (broker : Broker) (hub : HubId) : Option String :=
  (broker.current hub).map fun found => found.2.devicePublicKey

/-- Reject the requests of a connection. -/
def failPending (reason : String) (conn : Conn) (broker : Broker) : Broker :=
  { broker with
    requests := Cells.modifyAll (Request.fail reason) conn.pending.values broker.requests }

/-- Call `onClose` of the streams of a connection. -/
def endStreams (cause : CloseCause) (code : Json) (reason : String) (conn : Conn)
    (broker : Broker) : Broker :=
  { broker with
    streams := Cells.modifyAll
      (Stream.note (.onClose cause (some code) (some (.text reason))))
      conn.streams.values broker.streams }

def changeConn (number : Nat) (change : Conn → Conn) (broker : Broker) : Broker :=
  { broker with connections := broker.connections.modify number change }

def changeRequest (number : Nat) (change : Request → Request) (broker : Broker) : Broker :=
  { broker with requests := broker.requests.modify number change }

def changeStream (number : Nat) (change : Stream → Stream) (broker : Broker) : Broker :=
  { broker with streams := broker.streams.modify number change }

def goingAway : Json := .number (.nonzero false ⟨1001, by decide⟩ 4)

def internalError : Json := .number (.nonzero false ⟨1011, by decide⟩ 4)

/-- What becomes of the connection that a new one replaces. -/
def supersede (hub : HubId) (broker : Broker) : Broker :=
  match broker.current hub with
  | none => broker
  | some (_, prev) =>
    (broker.failPending "superseded by new connection" prev).endStreams .superseded goingAway
      "superseded by new connection" prev

def attach (hub : HubId) (devicePublicKey : String) (broker : Broker) : Broker :=
  let ended := broker.supersede hub
  { ended with
    conns := ended.conns.set hub ended.connections.length
    connections := ended.connections ++
      [⟨hub, devicePublicKey, [], OrderedMap.empty, OrderedMap.empty⟩] }

/-- The function that `attach` returned for a connection. -/
def detach (number : Nat) (conn : Conn) (broker : Broker) : Broker :=
  let removed :=
    if broker.conns.get conn.hub = some number then
      { broker with conns := broker.conns.delete conn.hub }
    else broker
  ((removed.failPending "tunnel closed" conn).endStreams .detached internalError "tunnel closed"
    conn).changeConn number fun conn => { conn with streams := OrderedMap.empty }

/-- A digit of `toString(36)`. -/
def digit36 (value : Nat) : Char :=
  if value < 10 then Char.ofNat ('0'.toNat + value) else Char.ofNat ('a'.toNat + value - 10)

/-- The digits before a text; `fuel` is more than the number of the digits. -/
def digits36 : (fuel : Nat) → Nat → List Char → List Char
  | 0, _, text => text
  | fuel + 1, value, text =>
    if value < 36 then digit36 value :: text
    else digits36 fuel (value / 36) (digit36 (value % 36) :: text)

/-- `value.toString(36)`. -/
def toString36 (value : Nat) : String := String.ofList (digits36 (value + 1) value [])

def requestId (now counter : Nat) : String := "r" ++ toString36 now ++ toString36 counter

def streamId (now counter : Nat) : String := "s" ++ toString36 now ++ toString36 counter

/-- Without a connection the promise that is returned is rejected, and nothing is kept of it. -/
def forward (hub : HubId) (request : TunnelRequest) (now : Nat) (broker : Broker) : Broker :=
  match broker.current hub with
  | none => broker
  | some (number, _) =>
    let id := requestId now broker.counter
    let registered : Broker :=
      { broker with
        counter := broker.counter + 1
        requests := broker.requests ++ [⟨hub, number, id, .armed, []⟩] }
    registered.changeConn number fun conn =>
      { conn with
        pending := conn.pending.set id broker.requests.length
        sent := conn.sent ++ [.req id request] }

def timeout (number : Nat) (request : Request) (broker : Broker) : Broker :=
  (broker.changeConn request.connection fun conn =>
    { conn with pending := conn.pending.delete request.id }).changeRequest number Request.expire

/-- Without a connection `null` is returned. -/
def openStream (hub : HubId) (path : String) (now : Nat) (broker : Broker) : Broker :=
  match broker.current hub with
  | none => broker
  | some (number, _) =>
    let id := streamId now broker.counter
    let registered : Broker :=
      { broker with
        counter := broker.counter + 1
        streams := broker.streams ++ [⟨hub, number, id, []⟩] }
    registered.changeConn number fun conn =>
      { conn with
        streams := conn.streams.set id broker.streams.length
        sent := conn.sent ++ [.streamOpen id path] }

/-- `send` of a stream. -/
def sendStream (stream : Stream) (data : String) (broker : Broker) : Broker :=
  broker.changeConn stream.connection fun conn =>
    { conn with sent := conn.sent ++ [.streamData stream.id data] }

/-- `close` of a stream; the hub is told if the stream is still there. -/
def closeStream (number : Nat) (stream : Stream) (broker : Broker) : Broker :=
  (broker.changeConn stream.connection fun conn =>
    if conn.streams.has stream.id then
      { conn with
        streams := conn.streams.delete stream.id
        sent := conn.sent ++ [.streamClose stream.id] }
    else conn).changeStream number (Stream.note .close)

def handleResponse (hub : HubId) (number : Nat) (conn : Conn) (id : String) (frame : Json)
    (broker : Broker) : Broker :=
  match conn.pending.get id with
  | none => broker
  | some pending =>
    (broker.changeConn number fun conn =>
      { conn with pending := conn.pending.delete id }).changeRequest pending fun request =>
        request.clearTimeout.settle (.resolved (frameResponse frame) ⟨hub, number, frame⟩)

def handleStreamData (hub : HubId) (conn : Conn) (id : String) (frame : Json)
    (broker : Broker) : Broker :=
  match conn.streams.get id with
  | none => broker
  | some stream =>
    broker.changeStream stream (Stream.note (.onData hub (memberOr frame "data" (.text ""))))

def handleStreamClose (hub : HubId) (number : Nat) (conn : Conn) (id : String) (frame : Json)
    (broker : Broker) : Broker :=
  match conn.streams.get id with
  | none => broker
  | some stream =>
    (broker.changeConn number fun conn =>
      { conn with streams := conn.streams.delete id }).changeStream stream
        (Stream.note (.onClose (.frame hub) (frame.member "code") (frame.member "reason")))

/--
Handle a message; `parsed` is what the text was parsed to, if it is JSON.  For
`null` the access to its kind throws, which changes nothing either.
-/
def handleMessage (hub : HubId) (parsed : Option Json) (broker : Broker) : Broker :=
  match broker.current hub, parsed with
  | some (number, conn), some frame =>
    match frameKind frame, frameId frame with
    | some "res", some id => broker.handleResponse hub number conn id frame
    | some "stream_data", some id => broker.handleStreamData hub conn id frame
    | some "stream_close", some id => broker.handleStreamClose hub number conn id frame
    | _, _ => broker
  | _, _ => broker

end Broker

namespace Broker

def hubOf (broker : Broker) (number : Nat) : Option HubId :=
  broker.connections[number]?.map Conn.hub

/-- What a connection has under an identifier in one of its tables. -/
def entryOf (table : Conn → OrderedMap String Nat) (broker : Broker) (number : Nat)
    (id : String) : Option Nat :=
  broker.connections[number]?.bind fun conn => (table conn).get id

section Lookups

variable {broker : Broker} {conn : Conn} {number : Nat} {change : Conn → Conn}
variable {table : Conn → OrderedMap String Nat}

theorem hubOf_eq (found : broker.connections[number]? = some conn) :
    broker.hubOf number = some conn.hub := by
  simp [hubOf, found]

theorem entryOf_eq (table : Conn → OrderedMap String Nat)
    (found : broker.connections[number]? = some conn) (id : String) :
    broker.entryOf table number id = (table conn).get id := by
  simp [entryOf, found]

theorem current_eq_some_iff {hub : HubId} :
    broker.current hub = some (number, conn) ↔
      broker.conns.get hub = some number ∧ broker.connections[number]? = some conn := by
  simp only [current, Option.bind_eq_some_iff, Option.map_eq_some_iff, Prod.mk.injEq]
  constructor
  · rintro ⟨_, current, _, found, rfl, rfl⟩
    exact ⟨current, found⟩
  · rintro ⟨current, found⟩
    exact ⟨number, current, conn, found, rfl, rfl⟩

theorem hubOf_changeConn (kept : ∀ conn, (change conn).hub = conn.hub) (other : Nat) :
    (broker.changeConn number change).hubOf other = broker.hubOf other := by
  simp only [hubOf, changeConn, Cells.getElem?_modify]
  split
  · cases broker.connections[other]? with
    | none => rfl
    | some conn => simp [kept]
  · rfl

theorem entryOf_changeConn_of_kept (kept : ∀ conn, table (change conn) = table conn)
    (other : Nat) (query : String) :
    (broker.changeConn number change).entryOf table other query =
      broker.entryOf table other query := by
  simp only [entryOf, changeConn, Cells.getElem?_modify]
  split
  · cases broker.connections[other]? with
    | none => rfl
    | some conn => simp [kept]
  · rfl

theorem entryOf_changeConn_of_set {id : String} {value : Nat}
    (found : broker.connections[number]? = some conn)
    (set : ∀ conn, table (change conn) = (table conn).set id value) (other : Nat) (query : String) :
    (broker.changeConn number change).entryOf table other query =
      if other = number ∧ query = id then some value
      else broker.entryOf table other query := by
  simp only [entryOf, changeConn, Cells.getElem?_modify]
  by_cases same : number = other
  · subst same
    simp [found, set]
  · simp [same, Ne.symm same]

theorem entryOf_changeConn_of_delete {id : String}
    (delete : ∀ conn query, (table (change conn)).get query =
      if query = id then none else (table conn).get query)
    (other : Nat) (query : String) :
    (broker.changeConn number change).entryOf table other query =
      if other = number ∧ query = id then none
      else broker.entryOf table other query := by
  simp only [entryOf, changeConn, Cells.getElem?_modify]
  by_cases same : number = other
  · subst same
    cases broker.connections[number]? with
    | none => simp
    | some conn => simp [delete]
  · simp [same, Ne.symm same]

theorem entryOf_changeConn_of_clear (clear : ∀ conn, table (change conn) = OrderedMap.empty)
    (other : Nat) (query : String) :
    (broker.changeConn number change).entryOf table other query =
      if other = number then none else broker.entryOf table other query := by
  simp only [entryOf, changeConn, Cells.getElem?_modify]
  by_cases same : number = other
  · subst same
    cases broker.connections[number]? <;> simp [clear]
  · simp [same, Ne.symm same]

end Lookups

section Attach

variable (hub : HubId) (devicePublicKey : String) (broker : Broker)

@[simp]
theorem connections_supersede : (broker.supersede hub).connections = broker.connections := by
  unfold supersede
  split <;> rfl

@[simp]
theorem conns_supersede : (broker.supersede hub).conns = broker.conns := by
  unfold supersede
  split <;> rfl

theorem conns_attach (query : HubId) :
    (broker.attach hub devicePublicKey).conns.get query =
      if query = hub then some broker.connections.length else broker.conns.get query := by
  simp [attach]

theorem hubOf_attach (number : Nat) :
    (broker.attach hub devicePublicKey).hubOf number =
      if number = broker.connections.length then some hub else broker.hubOf number := by
  simp only [attach, hubOf, connections_supersede, Cells.getElem?_concat]
  split <;> rfl

theorem entryOf_attach {table : Conn → OrderedMap String Nat}
    (empty : table ⟨hub, devicePublicKey, [], OrderedMap.empty, OrderedMap.empty⟩ =
      OrderedMap.empty) (number : Nat) (id : String) :
    (broker.attach hub devicePublicKey).entryOf table number id =
      broker.entryOf table number id := by
  simp only [attach, entryOf, connections_supersede, Cells.getElem?_concat]
  split
  · rename_i new
    simp [new, empty]
  · rfl

end Attach

section Detach

variable (number : Nat) (conn : Conn) (broker : Broker)

theorem conns_detach :
    (broker.detach number conn).conns =
      if broker.conns.get conn.hub = some number then broker.conns.delete conn.hub
      else broker.conns := by
  simp only [detach, changeConn, endStreams, failPending]
  split <;> rfl

theorem requests_detach :
    (broker.detach number conn).requests =
      Cells.modifyAll (Request.fail "tunnel closed") conn.pending.values broker.requests := by
  simp only [detach, changeConn, endStreams, failPending]
  split <;> rfl

theorem streams_detach :
    (broker.detach number conn).streams = Cells.modifyAll
        (Stream.note (.onClose .detached (some internalError) (some (.text "tunnel closed"))))
        conn.streams.values broker.streams := by
  simp only [detach, changeConn, endStreams, failPending]
  split <;> rfl

theorem hubOf_detach (other : Nat) :
    (broker.detach number conn).hubOf other = broker.hubOf other := by
  rw [detach, hubOf_changeConn]
  · simp only [hubOf, endStreams, failPending]
    split <;> rfl
  · exact fun _ => rfl

theorem pendingOf_detach (other : Nat) (id : String) :
    (broker.detach number conn).entryOf Conn.pending other id =
      broker.entryOf Conn.pending other id := by
  rw [detach, entryOf_changeConn_of_kept]
  · simp only [entryOf, endStreams, failPending]
    split <;> rfl
  · exact fun _ => rfl

theorem streamOf_detach (other : Nat) (id : String) :
    (broker.detach number conn).entryOf Conn.streams other id =
      if other = number then none else broker.entryOf Conn.streams other id := by
  rw [detach, entryOf_changeConn_of_clear]
  · by_cases same : other = number
    · simp only [same, if_true]
    · simp only [same, if_false, entryOf, endStreams, failPending]
      split <;> rfl
  · exact fun _ => rfl

end Detach

def HubsPlaced (broker : Broker) : Prop :=
  ∀ hub number, broker.conns.get hub = some number → broker.hubOf number = some hub

variable {broker : Broker}

theorem ne_length_of_hubOf {number : Nat} {hub : HubId}
    (found : broker.hubOf number = some hub) : number ≠ broker.connections.length := by
  rintro rfl
  simp [hubOf] at found

theorem HubsPlaced.attach (placed : broker.HubsPlaced) (hub : HubId)
    (devicePublicKey : String) : (broker.attach hub devicePublicKey).HubsPlaced := by
  intro other number current
  rw [conns_attach] at current
  rw [hubOf_attach]
  split at current
  · rename_i same
    simp only [Option.some.injEq] at current
    rw [if_pos current.symm, same]
  · have found := placed other number current
    rw [if_neg (ne_length_of_hubOf found)]
    exact found

theorem HubsPlaced.detach (placed : broker.HubsPlaced) (number : Nat)
    (conn : Conn) : (broker.detach number conn).HubsPlaced := by
  intro hub other current
  rw [hubOf_detach]
  rw [conns_detach] at current
  split at current
  · rw [OrderedMap.get_delete] at current
    split at current
    · cases current
    · exact placed hub other current
  · exact placed hub other current

end Broker

inductive Label where
  | attach (hub : HubId) (devicePublicKey : String)
  | detach (connection : Nat)
  | forward (hub : HubId) (request : TunnelRequest) (now : Nat)
  | timeout (request : Nat)
  | openStream (hub : HubId) (path : String) (now : Nat)
  | sendStream (stream : Nat) (data : String)
  | closeStream (stream : Nat)
  | handleMessage (hub : HubId) (parsed : Option Json)

open Broker in
/-- One call, or the expiry of a timer that is armed. -/
def step (broker : Broker) : Label → Option Broker
  | .attach hub devicePublicKey => some (broker.attach hub devicePublicKey)
  | .detach number => broker.connections[number]?.map fun conn => broker.detach number conn
  | .forward hub request now => some (broker.forward hub request now)
  | .timeout number =>
    match broker.requests[number]? with
    | some request => if request.timer = .armed then some (broker.timeout number
      request) else none
    | none => none
  | .openStream hub path now => some (broker.openStream hub path now)
  | .sendStream number data =>
    broker.streams[number]?.map fun stream => broker.sendStream stream data
  | .closeStream number =>
    broker.streams[number]?.map fun stream => broker.closeStream number stream
  | .handleMessage hub parsed => some (broker.handleMessage hub parsed)

def brokerMachine : Machine Broker Label := ⟨step⟩

end SupremeOs.TunnelBroker
