import Mathlib.Data.List.MinMax
import SupremeOs.Gateway.Stream
import SupremeOs.Support.Tickets

/-!
# Numbers of state events

Of two state events of a device the later one should get the higher number on
each connection, so that a client that keeps the highest number ends with the
latest event, and the numbers should be consecutive from one.

A number is drawn after two awaits and used after a third one.  Numbers follow
the events as long as they are drawn in the order of the events; and they are
consecutive as long as none is lost below one that is used.
-/

namespace SupremeOs.Gateway

open Support DomainModel List

/-- The state events of a device that a client has got. -/
def Connection.deltas (connection : Connection) (deviceId : DeviceId) : List StateDelta :=
  (connection.sent.filterMap ServerFrame.delta).filter fun delta => delta.deviceId = deviceId

/-- What a client has that keeps the event with the highest number. -/
def Connection.kept (connection : Connection) (deviceId : DeviceId) : Option StateDelta :=
  (connection.deltas deviceId).argmax StateDelta.seq

structure NumbersFollowEvents (config : Config Stream StreamCall) : Prop where
  ordered : ∀ (id : Nat) (connection : Connection) (deviceId : DeviceId),
    config.shared.connections[id]? = some connection →
    ∀ earlier ∈ connection.deltas deviceId, ∀ later ∈ connection.deltas deviceId,
      earlier.number < later.number → earlier.seq < later.seq
  consecutive : config.pending = [] → ∀ (id : Nat) (connection : Connection) (deviceId : DeviceId),
      config.shared.connections[id]? = some connection →
      ∃ count, ((connection.deltas deviceId).map StateDelta.seq).Perm (List.range' 1 count)
  latest : ∀ (id : Nat) (connection : Connection) (deviceId : DeviceId),
    config.shared.connections[id]? = some connection →
    ∀ kept ∈ connection.kept deviceId, ∀ delta ∈ connection.deltas deviceId,
      delta.number ≤ kept.number

/-- The number of a state event of a device that is to be sent to a connection. -/
def StreamCall.ticket (id : Nat) (deviceId : DeviceId) : StreamCall → Option (Ticket Nat)
  | .getFrameHome other number event _ seq =>
    if other = id ∧ event.deviceId = deviceId then some ⟨number, seq⟩ else none
  | .roomOf _ _ _ | .canView _ _ _ _ | .canViewRun _ _ | .canViewDriver _ _ | .getDevice _ _ _
  | .enforce _ _ _ | .command _ _ => none

/-- The numbers of a device that are still to be sent to a connection. -/
def heldTickets (pending : List StreamCall) (id : Nat) (deviceId : DeviceId) : List (Ticket Nat) :=
  pending.filterMap (StreamCall.ticket id deviceId)

/-- What has been sent and drawn on a connection. -/
structure NumberLedger where
  last : OrderedMap DeviceId Nat
  deltas : List StateDelta

def Connection.ledger (connection : Connection) : NumberLedger :=
  ⟨connection.seqByDevice, connection.sent.filterMap ServerFrame.delta⟩

def Stream.ledger (stream : Stream) (id : Nat) : NumberLedger :=
  ((stream.connections[id]?).map Connection.ledger).getD ⟨OrderedMap.empty, []⟩

namespace NumberLedger

def lastOf (ledger : NumberLedger) (deviceId : DeviceId) : Nat :=
  (ledger.last.get deviceId).getD 0

/-- The numbers of a device that have been sent. -/
def used (ledger : NumberLedger) (deviceId : DeviceId) : List (Ticket Nat) :=
  (ledger.deltas.filter fun delta => delta.deviceId = deviceId).map fun delta =>
    ⟨delta.number, delta.seq⟩

end NumberLedger

variable (config : Config Stream StreamCall)

/-- The numbers of a device that have been sent or are still to be sent. -/
def ticketsOf (id : Nat) (deviceId : DeviceId) : List (Ticket Nat) :=
  (config.shared.ledger id).used deviceId ++ heldTickets config.pending id deviceId

def Stream.isConnected (stream : Stream) (id : Nat) : Bool :=
  stream.connections[id]?.any Connection.isOpen

def NoneLostBelow (id : Nat) (deviceId : DeviceId) (seq : Nat) : Prop :=
  ∀ number < seq, 1 ≤ number → ∃ ticket ∈ ticketsOf config id deviceId, ticket.number = number

def NoneSentAbove (id : Nat) (deviceId : DeviceId) (seq : Nat) : Prop :=
  ∀ ticket ∈ (config.shared.ledger id).used deviceId, ticket.number ≤ seq

instance (config : Config Stream StreamCall) (id : Nat) (deviceId : DeviceId) (seq : Nat) :
    Decidable (NoneLostBelow config id deviceId seq) :=
  inferInstanceAs (Decidable (∀ number < seq, _ → ∃ ticket ∈ ticketsOf config id deviceId, _))

instance (config : Config Stream StreamCall) (id : Nat) (deviceId : DeviceId) (seq : Nat) :
    Decidable (NoneSentAbove config id deviceId seq) :=
  inferInstanceAs (Decidable (∀ ticket ∈ (config.shared.ledger id).used deviceId, _))

def StreamReply.isHome : StreamReply → Bool
  | .home _ => true
  | .user _ | .room _ | .verdict _ | .done | .rejected _ => false

/-- What a call has to meet when it goes on. -/
def StreamCall.InOrder (reply : StreamReply) : StreamCall → Prop
  | .canView id number event _ =>
    reply = .verdict true → ∀ ticket ∈ ticketsOf config id event.deviceId, ticket.rank ≤ number
  | .getFrameHome id _ event _ seq =>
    if reply.isHome && config.shared.isConnected id then
      NoneLostBelow config id event.deviceId seq
    else NoneSentAbove config id event.deviceId seq
  | .roomOf _ _ _ | .canViewRun _ _ | .canViewDriver _ _ | .getDevice _ _ _ | .enforce _ _ _
  | .command _ _ => True

instance (config : Config Stream StreamCall) (reply : StreamReply) :
    ∀ call, Decidable (StreamCall.InOrder config reply call) := by
  intro call
  unfold StreamCall.InOrder
  split <;> infer_instance

/--
The numbers of a device are drawn in the order of its events, and a number that
is drawn is not lost if a larger one is sent.
-/
def drawsInOrder : Schedule StreamRequest StreamReply → Prop
  | .call _ => True
  | .resume index reply => ∀ call ∈ config.pending[index]?, call.InOrder config reply

instance (config : Config Stream StreamCall) : ∀ label, Decidable (drawsInOrder config label)
  | .call _ => isTrue trivial
  | .resume index reply =>
    inferInstanceAs (Decidable (∀ call ∈ config.pending[index]?, call.InOrder config reply))

section Steps

variable {stream next : Stream} {id other : Nat} {deviceId : DeviceId}

variable {connection : Connection} {number : Nat} {event : StateEvent} {roomId : Option String}
    {call : StreamCall}

theorem ledger_of_connection (found : stream.connections[id]? = some connection) :
    stream.ledger id = connection.ledger := by
  simp [Stream.ledger, found]

theorem ledger_update_self
    (found : stream.connections[id]? = some connection) (change : Connection → Connection) :
    (stream.update id change).ledger id = (change connection).ledger := by
  simp [Stream.ledger, Stream.update, found]

theorem ledger_update_ne (differs : other ≠ id) (change : Connection → Connection) :
    (stream.update id change).ledger other = stream.ledger other := by
  simp [Stream.ledger, Stream.update, Ne.symm differs]

theorem ledger_update {change : Connection → Connection}
    (keeps : ∀ connection, (change connection).ledger = connection.ledger) :
    (stream.update id change).ledger other = stream.ledger other := by
  by_cases same : other = id
  · subst same
    simp only [Stream.ledger, Stream.update, getElem?_modify_eq]
    cases stream.connections[other]? with
    | none => rfl
    | some connection => exact keeps connection
  · exact ledger_update_ne same change

theorem ledger_send_other {frame : ServerFrame} (silent : frame.delta = none)
    (connection : Connection) : (connection.send frame).ledger = connection.ledger := by
  rw [Connection.send]
  split
  · simp [Connection.ledger, silent]
  · rfl

theorem ledger_handleFrame (now : Nat) (frame : Option ClientFrame) (connection : Connection) :
    (connection.handleFrame now frame).ledger = connection.ledger := by
  have answered : (connection.answer now frame).ledger = connection.ledger := by
    unfold Connection.answer
    split
    · exact ledger_send_other rfl connection
    · exact ledger_send_other rfl connection
    all_goals rfl
  exact answered

theorem ledger_notify (notification : Notification) :
    (stream.notify notification).ledger other = stream.ledger other := by
  rw [Stream.notify]
  refine List.foldlRecOn (motive := fun next : Stream => next.ledger other = stream.ledger other)
    _ _ rfl fun next same id _ => ?_
  refine (ledger_update fun connection => ?_).trans same
  split
  · exact ledger_send_other rfl connection
  · rfl

theorem ledger_settle (reply : StreamReply) :
    (stream.settle id reply).ledger other = stream.ledger other := by
  rw [Stream.settle]
  split
  · rfl
  · split
    · exact ledger_update fun _ => rfl
    · exact ledger_update fun connection => ledger_send_other rfl connection
    · exact ledger_update fun _ => rfl
    · exact ledger_update fun _ => rfl
    · rfl

theorem ledger_receive (frame : Option ClientFrame) :
    (stream.receive id frame).1.ledger other = stream.ledger other := by
  have arrives : (stream.update id (Connection.receive frame)).ledger other =
      stream.ledger other := ledger_update fun _ => rfl
  simp only [Stream.receive]
  split
  · rfl
  · split
    · split
      · rw [ledger_update (ledger_handleFrame stream.now frame), arrives]
      all_goals exact arrives
    · rfl

theorem ledger_close : (stream.close id).ledger other = stream.ledger other := by
  have closes : (stream.update id Connection.close).ledger other = stream.ledger other :=
    ledger_update fun _ => rfl
  rw [Stream.close]
  split
  · rfl
  · split
    · split <;> exact closes
    · rfl

theorem ledger_start (request : StreamRequest) :
    (stream.start request).1.ledger other = stream.ledger other := by
  cases request with
  | connect =>
    simp only [Stream.start, Stream.ledger, getElem?_append]
    split
    · rfl
    · rename_i beyond
      rw [getElem?_eq_none (Nat.le_of_not_lt beyond)]
      cases place : [Connection.opened][other - stream.connections.length]? with
      | none => rfl
      | some connection =>
        obtain rfl := mem_singleton.mp (mem_of_getElem? place)
        rfl
  | settle id reply => exact ledger_settle reply
  | frame id frame => exact ledger_receive frame
  | close id => exact ledger_close
  | notification notification => exact ledger_notify notification
  | stateEvent _ | sceneRun _ | driverState _ | online | tick _ => rfl

theorem undrawn_start (request : StreamRequest) :
    ∀ call ∈ (stream.start request).2, call.hasDrawn = false := by
  cases request with
  | frame id frame =>
    simp only [Stream.start, Stream.receive]
    split
    · simp
    · split
      · split
        · split <;> simp [StreamCall.hasDrawn]
        all_goals simp
      · simp
  | connect | settle _ _ | close _ | notification _ | online | tick _ => simp [Stream.start]
  | stateEvent _ | sceneRun _ | driverState _ =>
    intro call member
    rcases mem_map.mp member with ⟨_, _, rfl⟩
    rfl

@[simp]
theorem heldTickets_append (first second : List StreamCall) :
    heldTickets (first ++ second) id deviceId =
      heldTickets first id deviceId ++ heldTickets second id deviceId :=
  filterMap_append

theorem ticket_of_undrawn (undrawn : call.hasDrawn = false) : call.ticket id deviceId = none := by
  cases call with
  | getFrameHome => cases undrawn
  | roomOf | canView | canViewRun | canViewDriver | getDevice | enforce | command => rfl

theorem heldTickets_of_undrawn {calls : List StreamCall}
    (undrawn : ∀ call ∈ calls, call.hasDrawn = false) : heldTickets calls id deviceId = [] :=
  filterMap_eq_nil_iff.mpr fun call member => ticket_of_undrawn (undrawn call member)

theorem heldTickets_cons_of_none (calls : List StreamCall)
    (without : call.ticket id deviceId = none) :
    heldTickets (call :: calls) id deviceId = heldTickets calls id deviceId :=
  filterMap_cons_none without

theorem heldTickets_cons_of_some {ticket : Ticket Nat}
    (calls : List StreamCall) (holds : call.ticket id deviceId = some ticket) :
    heldTickets (call :: calls) id deviceId = ticket :: heldTickets calls id deviceId :=
  filterMap_cons_some holds

/-- What has been drawn, for each connection and each device. -/
def TicketsIssued : Prop :=
  ∀ id deviceId, Issued ((config.shared.ledger id).lastOf deviceId)
    ((config.shared.ledger id).used deviceId) (heldTickets config.pending id deviceId)

theorem TicketsIssued.of_same {config next : Config Stream StreamCall}
    (issued : TicketsIssued config) (ledger : ∀ id, next.shared.ledger id = config.shared.ledger id)
    (held : ∀ id deviceId,
      heldTickets next.pending id deviceId = heldTickets config.pending id deviceId) :
    TicketsIssued next := by
  intro id deviceId
  rw [ledger, held]
  exact issued id deviceId

theorem lastOf_draw : (connection.draw deviceId).ledger.lastOf deviceId =
      connection.ledger.lastOf deviceId + 1 := by
  simp [Connection.draw, Connection.ledger, NumberLedger.lastOf, Connection.seqOf]

theorem lastOf_draw_ne {drawn : DeviceId} (differs : deviceId ≠ drawn) :
    (connection.draw drawn).ledger.lastOf deviceId = connection.ledger.lastOf deviceId := by
  simp [Connection.draw, Connection.ledger, NumberLedger.lastOf, differs]

theorem used_draw {drawn : DeviceId} :
    (connection.draw drawn).ledger.used deviceId = connection.ledger.used deviceId := rfl

variable (id deviceId) in
theorem TicketsIssued.of_change {config changed : Config Stream StreamCall}
    (issued : TicketsIssued config) (own : Issued ((changed.shared.ledger id).lastOf deviceId)
      ((changed.shared.ledger id).used deviceId) (heldTickets changed.pending id deviceId))
    (ledger : ∀ other device, ¬(id = other ∧ deviceId = device) →
      (changed.shared.ledger other).lastOf device = (config.shared.ledger other).lastOf device ∧
      (changed.shared.ledger other).used device = (config.shared.ledger other).used device)
    (held : ∀ other device, ¬(id = other ∧ deviceId = device) →
      heldTickets changed.pending other device = heldTickets config.pending other device) :
    TicketsIssued changed := by
  intro other device
  by_cases mine : id = other ∧ deviceId = device
  · obtain ⟨rfl, rfl⟩ := mine
    exact own
  · rw [(ledger other device mine).1, (ledger other device mine).2, held other device mine]
    exact issued other device

theorem ticket_getFrameHome {seq : Nat} :
    (StreamCall.getFrameHome id number event roomId seq).ticket id event.deviceId =
      some ⟨number, seq⟩ := by
  simp [StreamCall.ticket]

theorem ticket_getFrameHome_ne {seq : Nat} (differs : ¬(id = other ∧ event.deviceId = deviceId)) :
    (StreamCall.getFrameHome id number event roomId seq).ticket other deviceId = none := by
  simp [StreamCall.ticket, differs]

theorem ticketsIssued_draw {before after : List StreamCall}
    (issued : TicketsIssued ⟨stream, before ++ .canView id number event roomId :: after⟩)
    (found : stream.connections[id]? = some connection) (inOrder : ∀ ticket ∈ ticketsOf
      ⟨stream, before ++ .canView id number event roomId :: after⟩ id event.deviceId,
      ticket.rank ≤ number) :
    TicketsIssued ⟨stream.update id (Connection.draw event.deviceId),
      before ++ [.getFrameHome id number event roomId (connection.seqOf event.deviceId + 1)] ++
        after⟩ := by
  have viewing : ∀ other device, heldTickets (before ++ .canView id number event roomId :: after)
      other device = heldTickets before other device ++ heldTickets after other device := by
    intro other device
    rw [heldTickets_append, heldTickets_cons_of_none after rfl]
  refine issued.of_change id event.deviceId ?_ ?_ ?_
  · have own := issued id event.deviceId
    have last : connection.ledger.lastOf event.deviceId = connection.seqOf event.deviceId := rfl
    simp only [ticketsOf, viewing, ledger_of_connection found] at own inOrder
    simp only [heldTickets_append, heldTickets_cons_of_some [] ticket_getFrameHome,
      ledger_update_self found, lastOf_draw, used_draw, append_assoc, ← last]
    exact (own.issue inOrder).perm (List.Perm.refl _) perm_middle.symm
  · intro other device apart
    by_cases self : other = id
    · subst self
      rw [ledger_update_self found, ledger_of_connection found]
      have differs : device ≠ event.deviceId := fun equal => apart ⟨rfl, equal.symm⟩
      exact ⟨lastOf_draw_ne differs, used_draw⟩
    · rw [ledger_update_ne self]
      exact ⟨rfl, rfl⟩
  · intro other device apart
    rw [viewing, heldTickets_append, heldTickets_append,
      heldTickets_cons_of_none [] (ticket_getFrameHome_ne apart)]
    simp [heldTickets]

theorem ticketsIssued_lose {before after : List StreamCall} {seq : Nat}
    (issued : TicketsIssued ⟨stream, before ++ .getFrameHome id number event roomId seq :: after⟩)
    (same : ∀ other, next.ledger other = stream.ledger other)
    (largest : ∀ ticket ∈ (stream.ledger id).used event.deviceId, ticket.number ≤ seq) :
    TicketsIssued ⟨next, before ++ [] ++ after⟩ := by
  refine issued.of_change id event.deviceId ?_ ?_ ?_
  · have own := issued id event.deviceId
    simp only [heldTickets_append, heldTickets_cons_of_some after ticket_getFrameHome] at own
    simp only [same, append_nil, heldTickets_append]
    exact (own.perm (List.Perm.refl _) perm_middle).lose largest
  · intro other device _
    rw [same]
    exact ⟨rfl, rfl⟩
  · intro other device apart
    simp [heldTickets_append, heldTickets_cons_of_none after (ticket_getFrameHome_ne apart)]

theorem deltas_send (isOpen : connection.isOpen = true) (delta : StateDelta) :
    (connection.send (.state delta)).ledger.deltas = connection.ledger.deltas ++ [delta] := by
  simp [Connection.send, isOpen, Connection.ledger, ServerFrame.delta]

theorem used_send (isOpen : connection.isOpen = true)
    {delta : StateDelta} (mine : delta.deviceId = deviceId) :
    (connection.send (.state delta)).ledger.used deviceId =
      connection.ledger.used deviceId ++ [⟨delta.number, delta.seq⟩] := by
  simp [NumberLedger.used, deltas_send isOpen, mine]

theorem used_send_ne (isOpen : connection.isOpen = true)
    {delta : StateDelta} (differs : delta.deviceId ≠ deviceId) :
    (connection.send (.state delta)).ledger.used deviceId = connection.ledger.used deviceId := by
  simp [NumberLedger.used, deltas_send isOpen, differs]

theorem lastOf_send (frame : ServerFrame) :
    (connection.send frame).ledger.lastOf deviceId = connection.ledger.lastOf deviceId := by
  rw [Connection.send]
  split <;> rfl

theorem ticketsIssued_send {before after : List StreamCall} {seq : Nat} {homeId : Option String}
    (issued : TicketsIssued ⟨stream, before ++ .getFrameHome id number event roomId seq :: after⟩)
    (found : stream.connections[id]? = some connection) (isOpen : connection.isOpen = true)
    (complete : NoneLostBelow
      ⟨stream, before ++ .getFrameHome id number event roomId seq :: after⟩ id event.deviceId seq) :
    TicketsIssued ⟨stream.update id
        (Connection.send (.state (Stream.delta number event roomId homeId seq))),
      before ++ [] ++ after⟩ := by
  refine issued.of_change id event.deviceId ?_ ?_ ?_
  · have own := issued id event.deviceId
    simp only [NoneLostBelow, ticketsOf, heldTickets_append,
      heldTickets_cons_of_some after ticket_getFrameHome, ledger_of_connection found]
      at own complete
    have mine : (Stream.delta number event roomId homeId seq).deviceId = event.deviceId := rfl
    simp only [ledger_update_self found, lastOf_send, used_send isOpen mine, append_nil,
      heldTickets_append]
    refine (own.perm (List.Perm.refl _) perm_middle).use ?_
    intro lower positive below
    rcases complete lower below positive with ⟨ticket, member, equal⟩
    exact ⟨ticket, (List.Perm.append_left _ perm_middle).mem_iff.mp member, equal⟩
  · intro other device apart
    by_cases self : other = id
    · subst self
      have differs : (Stream.delta number event roomId homeId seq).deviceId ≠ device :=
        fun equal => apart ⟨rfl, equal⟩
      rw [ledger_update_self found, ledger_of_connection found]
      exact ⟨lastOf_send _, used_send_ne isOpen differs⟩
    · rw [ledger_update_ne self]
      exact ⟨rfl, rfl⟩
  · intro other device apart
    simp [heldTickets_append, heldTickets_cons_of_none after (ticket_getFrameHome_ne apart)]

theorem ledger_send_unconnected (unconnected : stream.isConnected id = false)
    (frame : ServerFrame) :
    (stream.update id (Connection.send frame)).ledger other = stream.ledger other := by
  by_cases same : other = id
  · subst same
    cases found : stream.connections[other]? with
    | none => simp [Stream.ledger, Stream.update, found]
    | some connection =>
      have closed : connection.isOpen = false := by
        simpa [Stream.isConnected, found] using unconnected
      rw [ledger_update_self found, ledger_of_connection found, Connection.send, closed]
      rfl
  · exact ledger_update_ne same _

end Steps

theorem ticketsIssued_step : ∀ config label next, TicketsIssued config →
    drawsInOrder config label → streamProgram.machine.step config label = some next →
    TicketsIssued next := by
  intro config label next issued inOrder step
  cases label with
  | call request =>
    obtain rfl := Program.step_call_eq_some.mp step
    refine issued.of_same (fun id => ledger_start request) fun id deviceId => ?_
    have fresh : heldTickets (streamProgram.start config.shared request).2 id deviceId = [] :=
      heldTickets_of_undrawn (undrawn_start request)
    rw [heldTickets_append, fresh, append_nil]
  | resume index reply =>
    rcases Program.step_resume_eq_some.mp step with
      ⟨before, call, after, shared, more, split, rfl, resumed, rfl⟩
    have met : call.InOrder config reply := inOrder call (Program.getElem?_pending split)
    cases config with
    | mk stream pending =>
    obtain rfl : pending = before ++ call :: after := split
    cases resumed_of_resume resumed with
    | draws id number event roomId connection found =>
      exact ticketsIssued_draw issued found (met rfl)
    | sends id number event roomId homeId seq =>
      cases connected : stream.isConnected id with
      | false =>
        have largest : ∀ ticket ∈ (stream.ledger id).used event.deviceId, ticket.number ≤ seq := by
          simpa [StreamCall.InOrder, StreamReply.isHome, connected, NoneSentAbove] using met
        exact ticketsIssued_lose issued
          (fun other => ledger_send_unconnected connected _) largest
      | true =>
        have complete : NoneLostBelow
            ⟨stream, before ++ .getFrameHome id number event roomId seq :: after⟩
            id event.deviceId seq := by
          simpa [StreamCall.InOrder, StreamReply.isHome, connected] using met
        rw [Stream.isConnected, Option.any_eq_true] at connected
        rcases connected with ⟨connection, found, isOpen⟩
        exact ticketsIssued_send issued found isOpen complete
    | loses id number event roomId seq message =>
      have largest : ∀ ticket ∈ (stream.ledger id).used event.deviceId, ticket.number ≤ seq := by
        simpa [StreamCall.InOrder, StreamReply.isHome, NoneSentAbove] using met
      exact ticketsIssued_lose issued (fun _ => rfl) largest
    | other only =>
      refine issued.of_same (fun id => ?_) fun id deviceId => ?_
      · rcases only.next with same | ⟨other, frame, silent, same⟩
        · rw [same]
        · rw [same]
          exact ledger_update fun connection => ledger_send_other silent connection
      · simp only [heldTickets_append, heldTickets_of_undrawn only.more,
          heldTickets_cons_of_none after (ticket_of_undrawn only.undrawn), append_nil]

theorem ticketsIssued_initial (homeId : String) (now : Nat) :
    TicketsIssued (Program.idle (.initial homeId now)) := by
  intro id deviceId
  exact Issued.nil

theorem mem_used {connection : Connection} {deviceId : DeviceId} {delta : StateDelta}
    (member : delta ∈ connection.deltas deviceId) :
    ⟨delta.number, delta.seq⟩ ∈ connection.ledger.used deviceId :=
  mem_map.mpr ⟨delta, member, rfl⟩

theorem TicketsIssued.ordered {config : Config Stream StreamCall} (issued : TicketsIssued config)
    {id : Nat} {connection : Connection} {deviceId : DeviceId}
    (found : config.shared.connections[id]? = some connection) {earlier later : StateDelta}
    (first : earlier ∈ connection.deltas deviceId) (second : later ∈ connection.deltas deviceId)
    (before : earlier.number < later.number) : earlier.seq < later.seq := by
  have own := issued id deviceId
  rw [ledger_of_connection found] at own
  exact own.ordered _ (mem_append_left _ (mem_used first)) _
    (mem_append_left _ (mem_used second)) before

/-- Numbers follow events in every run in which they are drawn in order. -/
theorem numbers_follow_events (homeId : String) (now : Nat)
    (labels : List (Schedule StreamRequest StreamReply))
    (guarded : streamProgram.machine.Guarded drawsInOrder
      (Program.idle (.initial homeId now)) labels) :
    streamProgram.machine.Throughout NumbersFollowEvents
      (Program.idle (.initial homeId now)) labels := by
  apply (Machine.throughout_of_guarded ticketsIssued_step (ticketsIssued_initial homeId now)
    guarded).mono
  intro config issued
  refine ⟨?_, ?_, ?_⟩
  · intro id connection deviceId found earlier first later second before
    exact issued.ordered found first second before
  · intro quiet id connection deviceId found
    have own := issued id deviceId
    rw [ledger_of_connection found, quiet] at own
    rcases own.consecutive with ⟨count, consecutive⟩
    refine ⟨count, ?_⟩
    rw [NumberLedger.used, map_map] at consecutive
    exact consecutive
  · intro id connection deviceId found kept isKept delta member
    have keptMember : kept ∈ connection.deltas deviceId := argmax_mem isKept
    refine Nat.le_of_not_lt fun later => ?_
    exact not_lt_of_mem_argmax member isKept
      (issued.ordered found keptMember member later)

def lampReport (on : Bool) : StateEvent where
  deviceId := "lamp"
  state := ⟨.onoff, OrderedMap.empty.set "on" (.primitive (.boolean on))⟩
  provenance := none
  ts := ""

/-- A client listens to all rooms, and the lamp is switched on and off. -/
def switchedTwice : List (Schedule StreamRequest StreamReply) :=
  [.call .connect, .call (.settle 0 (.user "ann")), .call (.settle 0 (.home none)),
    .call (.frame 0 (some (.subscribe ["*"]))), .call (.stateEvent (lampReport true)),
    .call (.stateEvent (lampReport false)), .resume 0 (.room none), .resume 1 (.room none)]

/-- The numbers are drawn in order, and the second frame is sent first. -/
theorem second_frame_first :
    streamProgram.machine.Throughout NumbersFollowEvents (Program.idle (.initial "home" 0))
      (switchedTwice ++ [.resume 0 (.verdict true), .resume 1 (.verdict true),
        .resume 1 (.home none), .resume 0 (.home none)]) :=
  numbers_follow_events "home" 0 _ (by decide +kernel)

/-- The permission for the second event is known first, and the client stays with the first. -/
theorem stale_report_is_kept : ¬ ∀ labels : List (Schedule StreamRequest StreamReply),
      streamProgram.machine.Throughout NumbersFollowEvents (Program.idle (.initial "home" 0))
        labels := by
  intro follow
  have last := Machine.property_of_throughout
    (follow (switchedTwice ++ [.resume 1 (.verdict true), .resume 0 (.verdict true),
      .resume 1 (.home none), .resume 0 (.home none)])) rfl
  have wrong := last.latest 0 _ "lamp" rfl
    (Stream.delta 0 (lampReport true) none none 2) (by decide +kernel)
    (Stream.delta 1 (lampReport false) none none 1) (by decide +kernel)
  exact absurd wrong (by decide)

end SupremeOs.Gateway
