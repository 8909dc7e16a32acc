import SupremeOs.Gateway.TunnelConnection

/-!
# Streams through the tunnel

The local socket of a stream should get what the broker sends for the stream,
and should be closed when the stream ends: when the broker closes it, when its
connection to the broker is lost, or when the client is stopped.

A local socket is listed only once it is open.  What ends a stream before that
does not reach its socket, a lost connection reaches none, and data for a
stream that is not open is kept for good.
-/

namespace SupremeOs.Gateway

open Support List OrderedMap Option

/-- What the broker has sent about a stream. -/
structure Feed where
  opened : Bool
  closed : Bool
  /-- The data sent since the stream was opened and before it was closed. -/
  data : List String

namespace Feed

def empty : Feed := ⟨false, false, []⟩

def note (id : String) (feed : Feed) : BrokerFrame → Feed
  | .streamOpen other _ => if other = id then ⟨true, false, []⟩ else feed
  | .streamData other data =>
    if other = id ∧ feed.opened = true ∧ feed.closed = false then
      { feed with data := feed.data ++ [data] }
    else feed
  | .streamClose other => if other = id then { feed with closed := true } else feed
  | .challenge _ | .ready | .other => feed

end Feed

namespace TunnelClient

def feed (client : TunnelClient) (id : String) : Feed :=
  client.received.foldl (Feed.note id) Feed.empty

def ended (client : TunnelClient) (socket : LocalSocket) : Bool :=
  (client.feed socket.streamId).closed || !client.isUp socket.carrier || client.stopped

end TunnelClient

structure StreamsServed (client : TunnelClient) : Prop where
  /-- Into a local socket goes what came for its stream, from the first on. -/
  inOrder : ∀ socket ∈ client.locals, socket.sent <+: (client.feed socket.streamId).data
  complete : ∀ socket ∈ client.locals, socket.phase = .live ∨ socket.phase = .closing →
    socket.sent = (client.feed socket.streamId).data
  closed : ∀ socket ∈ client.locals, client.ended socket = true → socket.phase ≠ .live
  /-- Frames about a stream go to the connection that it was opened on. -/
  forwarded : ∀ socket ∈ client.locals, ∀ sent ∈ client.sent,
    sent.2.streamId = some socket.streamId → sent.1 = socket.carrier
  /-- Frames are kept only for an open stream whose socket is on its way. -/
  kept : ∀ id, client.pendingStreamFrames.get id ≠ none →
    ∃ socket ∈ client.locals, socket.streamId = id ∧ socket.phase = .connecting ∧
      client.ended socket = false

/-- The broker opens each stream under an id that it has not used before. -/
def opensFresh (client : TunnelClient) : TunnelEvent → Prop
  | .frame _ (.streamOpen id _) => (client.feed id).opened = false
  | .frame _ (.challenge _) | .frame _ .ready | .frame _ (.streamData _ _)
  | .frame _ (.streamClose _) | .frame _ .other | .stop | .brokerOpened _ | .brokerClosed _
  | .reconnect | .localOpened _ | .localMessage _ _ | .localClosed _ => True

instance (client : TunnelClient) : ∀ event, Decidable (opensFresh client event) := by
  intro event
  unfold opensFresh
  split <;> infer_instance

/-- The stream is open and its local socket is too, or will be. -/
def TunnelClient.serves (client : TunnelClient) (id : String) : Prop :=
  ∃ socket ∈ client.locals, socket.streamId = id ∧ socket.phase.isUp = true ∧
    client.ended socket = false

instance (client : TunnelClient) (id : String) : Decidable (client.serves id) :=
  inferInstanceAs (Decidable (∃ socket ∈ client.locals, _))

/--
Data comes for open streams only, a local socket does not open once its stream
has ended nor close on another connection, a connection is lost when no local
socket of it is open, and frames that are kept are not given up.
-/
def streamEndsInTime (client : TunnelClient) : TunnelEvent → Prop
  | .frame _ (.streamData id _) => id = "" ∨ client.serves id
  | .stop => client.pendingStreamFrames = OrderedMap.empty
  | .brokerClosed carrier => ∀ socket ∈ client.locals, socket.carrier = carrier →
      socket.phase ≠ .live ∧ client.pendingStreamFrames.get socket.streamId = none
  | .localOpened index => ∀ socket ∈ client.locals[index]?, client.ended socket = false
  | .localClosed index => ∀ socket ∈ client.locals[index]?,
      client.pendingStreamFrames.get socket.streamId = none ∧
        ∀ current ∈ client.ws, current = socket.carrier
  | .frame _ (.challenge _) | .frame _ .ready | .frame _ (.streamOpen _ _)
  | .frame _ (.streamClose _) | .frame _ .other | .brokerOpened _ | .reconnect
  | .localMessage _ _ => True

instance (client : TunnelClient) : ∀ event, Decidable (streamEndsInTime client event) := by
  intro event
  unfold streamEndsInTime
  split <;> infer_instance

structure SocketSound (client : TunnelClient) (socket : LocalSocket) : Prop where
  named : socket.streamId ≠ ""
  opened : (client.feed socket.streamId).opened = true
  carried : socket.carrier < client.sockets.length
  inOrder : socket.sent <+: (client.feed socket.streamId).data
  waiting : socket.phase = .connecting → socket.sent = [] ∧ (client.ended socket = false →
      (client.pendingStreamFrames.get socket.streamId).getD [] = (client.feed socket.streamId).data)
  complete : socket.phase = .live ∨ socket.phase = .closing →
    socket.sent = (client.feed socket.streamId).data
  closed : socket.phase = .live → client.ended socket = false

structure StreamsSound (client : TunnelClient) : Prop where
  sockets : ∀ (index : Nat) (socket : LocalSocket), client.locals[index]? = some socket →
    SocketSound client socket
  unique : ∀ (first second : Nat) (socket other : LocalSocket),
    client.locals[first]? = some socket → client.locals[second]? = some other →
    socket.streamId = other.streamId → first = second
  listed : ∀ (id : String) (index : Nat), client.localStreams.get id = some index ↔
    ∃ socket, client.locals[index]? = some socket ∧ socket.streamId = id ∧ socket.phase = .live
  forwarded : ∀ sent ∈ client.sent, ∀ id, sent.2.streamId = some id →
    ∃ (index : Nat) (socket : LocalSocket), client.locals[index]? = some socket ∧
      socket.streamId = id ∧ socket.carrier = sent.1
  kept : ∀ id, client.pendingStreamFrames.get id ≠ none →
    ∃ (index : Nat) (socket : LocalSocket), client.locals[index]? = some socket ∧
      socket.streamId = id ∧ socket.phase = .connecting ∧ client.ended socket = false

theorem StreamsSound.served {client : TunnelClient} (sound : StreamsSound client) :
    StreamsServed client := by
  have known : ∀ socket ∈ client.locals, SocketSound client socket := by
    intro socket member
    rcases getElem?_of_mem member with ⟨index, found⟩
    exact sound.sockets index socket found
  refine ⟨?_, ?_, ?_, ?_, ?_⟩
  · exact fun socket member => (known socket member).inOrder
  · exact fun socket member => (known socket member).complete
  · intro socket member ended live
    rw [(known socket member).closed live] at ended
    cases ended
  · intro socket member sent spoken about
    rcases getElem?_of_mem member with ⟨index, found⟩
    rcases sound.forwarded sent spoken _ about with ⟨place, other, there, named, carried⟩
    obtain rfl := sound.unique place index other socket there found named
    cases there.symm.trans found
    exact carried.symm
  · intro id present
    rcases sound.kept id present with ⟨index, socket, found, rest⟩
    exact ⟨socket, mem_of_getElem? found, rest⟩

section Steps

variable {client next : TunnelClient}

/-- What there is to know of a local socket is as before, but that its stream may have ended. -/
structure SameFor (client next : TunnelClient) (socket : LocalSocket) : Prop where
  feed : next.feed socket.streamId = client.feed socket.streamId
  length : client.sockets.length ≤ next.sockets.length
  ended : client.ended socket = true → next.ended socket = true
  stillOpen : next.ended socket = true → client.ended socket = true ∨
    socket.phase ≠ .live ∧ client.pendingStreamFrames.get socket.streamId = none
  pending : next.pendingStreamFrames.get socket.streamId =
    client.pendingStreamFrames.get socket.streamId

namespace SameFor

variable {socket : LocalSocket}

theorem not_ended (same : SameFor client next socket) (running : next.ended socket = false) :
    client.ended socket = false := by
  by_contra finished
  rw [same.ended (eq_true_of_ne_false finished)] at running
  cases running

theorem carry (same : SameFor client next socket) (sound : SocketSound client socket) :
    SocketSound next socket := by
  refine ⟨sound.named, ?_, Nat.lt_of_lt_of_le sound.carried same.length, ?_, ?_, ?_, ?_⟩
  · rw [same.feed]
    exact sound.opened
  · rw [same.feed]
    exact sound.inOrder
  · intro connecting
    refine ⟨(sound.waiting connecting).1, fun running => ?_⟩
    rw [same.feed, same.pending]
    exact (sound.waiting connecting).2 (same.not_ended running)
  · rw [same.feed]
    exact sound.complete
  · intro live
    by_contra finished
    rcases same.stillOpen (eq_true_of_ne_false finished) with before | ⟨dead, _⟩
    · rw [sound.closed live] at before
      cases before
    · exact dead live

end SameFor

theorem StreamsSound.quiet (sound : StreamsSound client) (locals : next.locals = client.locals)
    (localStreams : ∀ id, next.localStreams.get id = client.localStreams.get id)
    (pending : ∀ id, next.pendingStreamFrames.get id = client.pendingStreamFrames.get id)
    (sent : ∀ sent ∈ next.sent, sent.2.streamId ≠ none → sent ∈ client.sent)
    (same : ∀ (index : Nat) (socket : LocalSocket), client.locals[index]? = some socket →
      SameFor client next socket) :
    StreamsSound next := by
  refine ⟨?_, ?_, ?_, ?_, ?_⟩
  · rw [locals]
    exact fun index socket found => (same index socket found).carry
      (sound.sockets index socket found)
  · rw [locals]
    exact sound.unique
  · intro id index
    rw [localStreams, locals]
    exact sound.listed id index
  · intro frame spoken id about
    rw [locals]
    exact sound.forwarded frame (sent frame spoken (by simp [about])) id about
  · intro id present
    rw [pending] at present
    rcases sound.kept id present with ⟨index, socket, found, named, connecting, running⟩
    refine ⟨index, socket, by rw [locals]; exact found, named, connecting, ?_⟩
    by_contra finished
    rcases (same index socket found).stillOpen (eq_true_of_ne_false finished) with
      before | ⟨_, none⟩
    · rw [running] at before
      cases before
    · rw [named] at none
      exact present none

structure ChangesOne (client next : TunnelClient) (index : Nat) (socket changed : LocalSocket) :
    Prop where
  found : client.locals[index]? = some socket
  becomes : next.locals[index]? = some changed
  elsewhere : ∀ other, other ≠ index → next.locals[other]? = client.locals[other]?
  streamId : changed.streamId = socket.streamId
  carrier : changed.carrier = socket.carrier
  others : ∀ (place : Nat) (other : LocalSocket), client.locals[place]? = some other →
    other.streamId ≠ socket.streamId → SameFor client next other ∧
      (next.ended other = true → client.ended other = true)
  localStreams : ∀ id, next.localStreams.get id =
    if id = socket.streamId then (if changed.phase = .live then some index else none)
    else client.localStreams.get id
  pending : ∀ id, id ≠ socket.streamId →
    next.pendingStreamFrames.get id = client.pendingStreamFrames.get id
  keeps : next.pendingStreamFrames.get socket.streamId ≠ none →
    changed.phase = .connecting ∧ next.ended changed = false
  sent : ∀ sent ∈ next.sent, sent ∈ client.sent ∨
    (sent.1 = socket.carrier ∧ sent.2.streamId = some socket.streamId)

variable {socket : LocalSocket} {index carrier : Nat} {id : String} {event : TunnelEvent}

theorem StreamsSound.change (sound : StreamsSound client)
    {changed : LocalSocket} (changes : ChangesOne client next index socket changed)
    (here : SocketSound next changed) : StreamsSound next := by
  -- the sockets before the step, by place
  have before : ∀ (place : Nat) (other : LocalSocket), next.locals[place]? = some other →
      ∃ old, client.locals[place]? = some old ∧ old.streamId = other.streamId := by
    intro place other found
    by_cases same : place = index
    · subst same
      cases changes.becomes.symm.trans found
      exact ⟨socket, changes.found, changes.streamId.symm⟩
    · rw [changes.elsewhere place same] at found
      exact ⟨other, found, rfl⟩
  -- no other socket has the stream
  have apart : ∀ (place : Nat) (other : LocalSocket), place ≠ index →
      client.locals[place]? = some other → other.streamId ≠ socket.streamId :=
    fun place other away found same =>
      away (sound.unique place index other socket found changes.found same)
  refine ⟨?_, ?_, ?_, ?_, ?_⟩
  · intro place other found
    by_cases same : place = index
    · subst same
      cases changes.becomes.symm.trans found
      exact here
    · rw [changes.elsewhere place same] at found
      exact (changes.others place other found (apart place other same found)).1.carry
        (sound.sockets place other found)
  · intro first second one two found there same
    rcases before first one found with ⟨oldOne, foundOne, namedOne⟩
    rcases before second two there with ⟨oldTwo, foundTwo, namedTwo⟩
    exact sound.unique first second oldOne oldTwo foundOne foundTwo
      (namedOne.trans (same.trans namedTwo.symm))
  · intro id place
    rw [changes.localStreams]
    by_cases about : id = socket.streamId
    · subst about
      simp only [if_true]
      constructor
      · intro listed
        split at listed
        · rename_i live
          cases listed
          exact ⟨changed, changes.becomes, changes.streamId, live⟩
        · cases listed
      · rintro ⟨other, found, named, live⟩
        by_cases same : place = index
        · subst same
          cases changes.becomes.symm.trans found
          rw [if_pos live]
        · rw [changes.elsewhere place same] at found
          exact absurd named (apart place other same found)
    · rw [if_neg about, sound.listed]
      refine exists_congr fun other => ?_
      by_cases same : place = index
      · subst same
        rw [changes.becomes, changes.found]
        constructor
        · rintro ⟨found, named, _⟩
          cases found
          exact absurd named.symm about
        · rintro ⟨found, named, _⟩
          cases found
          rw [changes.streamId] at named
          exact absurd named.symm about
      · rw [changes.elsewhere place same]
  · intro frame spoken id about
    rcases changes.sent frame spoken with old | ⟨carried, named⟩
    · rcases sound.forwarded frame old id about with ⟨place, other, found, named, carried⟩
      by_cases same : place = index
      · subst same
        cases changes.found.symm.trans found
        exact ⟨place, changed, changes.becomes, changes.streamId.trans named,
          changes.carrier.trans carried⟩
      · exact ⟨place, other, by rw [changes.elsewhere place same]; exact found, named, carried⟩
    · cases named.symm.trans about
      exact ⟨index, changed, changes.becomes, changes.streamId, changes.carrier.trans carried.symm⟩
  · intro id present
    by_cases about : id = socket.streamId
    · subst about
      exact ⟨index, changed, changes.becomes, changes.streamId, changes.keeps present⟩
    · rw [changes.pending id about] at present
      rcases sound.kept id present with ⟨place, other, found, named, connecting, running⟩
      have away : place ≠ index := by
        rintro rfl
        cases changes.found.symm.trans found
        exact about named.symm
      have still := (changes.others place other found (by rw [named]; exact about)).2
      refine ⟨place, other, by rw [changes.elsewhere place away]; exact found, named,
        connecting, ?_⟩
      by_contra finished
      rw [still (eq_true_of_ne_false finished)] at running
      cases running

/-- A client that has been started once has one connection, and closes it only to stop. -/
structure TunnelRuns (client : TunnelClient) : Prop where
  sound : ConnectionSound client
  one : OneConnection client
  settled : client.stopped = false → ∀ socket : Nat, client.sockets[socket]? ≠ some .closing

theorem TunnelRuns.startsClean (runs : TunnelRuns client) {event : TunnelEvent}
    (taken : client.handle event = some next) : startsClean client (.event event) := by
  cases event with
  | brokerClosed socket =>
    intro running
    rw [runs.sound.current, TunnelClient.isUp]
    simp only [TunnelClient.handle] at taken
    split at taken
    · cases taken
    · cases taken
    · rename_i phase open_ found
      rw [found]
      cases phase with
      | connecting | live => rfl
      | closing => exact absurd found (runs.settled running socket)
      | closed => exact absurd rfl open_
  | stop | frame | brokerOpened | reconnect | localOpened | localMessage | localClosed => trivial

theorem tunnelRuns_step (runs : TunnelRuns client)
    (taken : client.handle event = some next) : TunnelRuns next := by
  have step : tunnelMachine.step client (.event event) = some next := taken
  refine ⟨connectionSound_step runs.sound runs.one step,
    (oneConnection_step runs.sound runs.one step).mpr (runs.startsClean taken), ?_⟩
  intro running socket closing
  cases connectionStep_of_handle taken with
  | stop => cases running
  | brokerClosed lost phase found =>
    simp only [TunnelClient.brokerClosed, Cells.getElem?_modify] at closing
    split at closing
    · cases present : client.sockets[socket]? <;> simp at closing
    · exact runs.settled running socket closing
  | reconnect timers armed =>
    rw [TunnelClient.connect] at running closing
    split at running
    · rename_i stopped
      exact absurd (stopped.symm.trans running) (by simp)
    · rename_i going
      rw [if_neg going] at closing
      simp only [Cells.getElem?_concat] at closing
      split at closing
      · cases closing
      · exact runs.settled running socket closing
  | same same clean =>
    exact runs.settled (same.stopped ▸ running) socket (same.closing socket closing)

theorem isUp_of_ended (running : client.ended socket = false) :
    client.isUp socket.carrier = true := by
  simp only [TunnelClient.ended, Bool.or_eq_false_iff, Bool.not_eq_false'] at running
  exact running.1.2

theorem TunnelRuns.ws (runs : TunnelRuns client)
    (running : client.ended socket = false) : client.ws = some socket.carrier :=
  (runs.sound.current _).mpr (isUp_of_ended running)

theorem SameConnection.ended (same : SameConnection client next) {socket : LocalSocket}
    (closed : (next.feed socket.streamId).closed = (client.feed socket.streamId).closed) :
    next.ended socket = client.ended socket := by
  rw [TunnelClient.ended, TunnelClient.ended, closed, same.isUp, same.stopped]

theorem SameConnection.sameFor (same : SameConnection client next)
    (feed : next.feed socket.streamId = client.feed socket.streamId)
    (pending : next.pendingStreamFrames.get socket.streamId =
      client.pendingStreamFrames.get socket.streamId) : SameFor client next socket := by
  have ended := same.ended (congrArg Feed.closed feed)
  refine ⟨feed, Nat.le_of_eq same.length.symm, ?_, ?_, pending⟩
  · rw [ended]
    exact id
  · rw [ended]
    exact .inl

theorem feed_of_received {frame : BrokerFrame} (received : next.received =
    client.received ++ [frame])
    (id : String) : next.feed id = (client.feed id).note id frame := by
  rw [TunnelClient.feed, received, foldl_append]
  rfl

theorem feed_of_same (received : next.received = client.received) (id : String) :
    next.feed id = client.feed id := by
  rw [TunnelClient.feed, received]
  rfl

theorem StreamsSound.unheard (sound : StreamsSound client) (same : SameConnection client next)
    {frame : BrokerFrame} (received : next.received = client.received ++ [frame])
    (unheard : ∀ (index : Nat) (socket : LocalSocket), client.locals[index]? = some socket →
      (client.feed socket.streamId).note socket.streamId frame = client.feed socket.streamId)
    (locals : next.locals = client.locals)
    (localStreams : ∀ id, next.localStreams.get id = client.localStreams.get id)
    (pending : ∀ id, next.pendingStreamFrames.get id = client.pendingStreamFrames.get id)
    (sent : ∀ sent ∈ next.sent, sent.2.streamId ≠ none → sent ∈ client.sent) :
    StreamsSound next := by
  refine sound.quiet locals localStreams pending sent fun index socket found => ?_
  refine same.sameFor ?_ (pending _)
  rw [feed_of_received received, unheard index socket found]

theorem StreamsSound.opened (sound : StreamsSound client) (same : SameConnection client next)
    {path : String} (fresh : (client.feed id).opened = false) (named : id ≠ "")
    (carried : carrier < client.sockets.length)
    (received : next.received = client.received ++ [.streamOpen id path])
    (locals : next.locals = client.locals ++ [⟨id, path, carrier, .connecting, []⟩])
    (localStreams : next.localStreams = client.localStreams)
    (pending : next.pendingStreamFrames = client.pendingStreamFrames)
    (sent : next.sent = client.sent) : StreamsSound next := by
  have away : ∀ (index : Nat) (socket : LocalSocket), client.locals[index]? = some socket →
      socket.streamId ≠ id := by
    rintro index socket found rfl
    rw [(sound.sockets index socket found).opened] at fresh
    cases fresh
  have kept : ∀ (index : Nat) (socket : LocalSocket), client.locals[index]? = some socket →
      next.locals[index]? = some socket := by
    intro index socket found
    rw [locals, Cells.getElem?_concat, if_neg (Nat.ne_of_lt (Cells.lt_of_getElem? found)), found]
  have sameFor : ∀ (index : Nat) (socket : LocalSocket), client.locals[index]? = some socket →
      SameFor client next socket := by
    intro index socket found
    refine same.sameFor ?_ (by rw [pending])
    rw [feed_of_received received, Feed.note, if_neg (away index socket found).symm]
  have new := feed_of_received received id
  rw [Feed.note, if_pos rfl] at new
  have empty : client.pendingStreamFrames.get id = none := by
    by_contra present
    rcases sound.kept id present with ⟨index, socket, found, same, _⟩
    exact away index socket found same
  -- what is found afterwards is the new socket or an old one
  have which : ∀ (index : Nat) (socket : LocalSocket), next.locals[index]? = some socket →
      (index = client.locals.length ∧ socket = ⟨id, path, carrier, .connecting, []⟩) ∨
        client.locals[index]? = some socket := by
    intro index socket found
    rw [locals, Cells.getElem?_concat] at found
    split at found
    · rename_i last
      exact .inl ⟨last, (some.inj found).symm⟩
    · exact .inr found
  refine ⟨?_, ?_, ?_, ?_, ?_⟩
  · intro index socket found
    rcases which index socket found with ⟨_, rfl⟩ | old
    · refine ⟨named, by rw [new], by rw [same.length]; exact carried, nil_prefix,
        fun _ => ⟨rfl, fun _ => ?_⟩, fun phase => (by rcases phase with phase | phase
          <;> cases phase), fun live => (by cases live)⟩
      simp [pending, empty, new]
    · exact (sameFor index socket old).carry (sound.sockets index socket old)
  · intro first second one two found there alike
    rcases which first one found with ⟨lastOne, rfl⟩ | oldOne <;>
      rcases which second two there with ⟨lastTwo, rfl⟩ | oldTwo
    · exact lastOne.trans lastTwo.symm
    · exact absurd alike.symm (away second two oldTwo)
    · exact absurd alike (away first one oldOne)
    · exact sound.unique first second one two oldOne oldTwo alike
  · intro query index
    rw [localStreams, sound.listed]
    constructor
    · rintro ⟨socket, found, rest⟩
      exact ⟨socket, kept index socket found, rest⟩
    · rintro ⟨socket, found, about, live⟩
      rcases which index socket found with ⟨_, rfl⟩ | old
      · cases live
      · exact ⟨socket, old, about, live⟩
  · rw [sent]
    intro frame spoken query about
    rcases sound.forwarded frame spoken query about with ⟨index, socket, found, rest⟩
    exact ⟨index, socket, kept index socket found, rest⟩
  · intro query present
    rw [pending] at present
    rcases sound.kept query present with ⟨index, socket, found, about, connecting, running⟩
    refine ⟨index, socket, kept index socket found, about, connecting, ?_⟩
    rw [same.ended (congrArg Feed.closed (sameFor index socket found).feed), running]

theorem StreamsSound.get_of_found (sound : StreamsSound client)
    (found : client.locals[index]? = some socket) :
    client.localStreams.get socket.streamId =
      if socket.phase = .live then some index else none := by
  split
  · rename_i live
    exact (sound.listed _ _).mpr ⟨socket, found, rfl, live⟩
  · rename_i dead
    by_contra present
    rcases ne_none_iff_exists'.mp present with ⟨place, listed⟩
    rcases (sound.listed _ _).mp listed with ⟨other, there, named, live⟩
    obtain rfl := sound.unique place index other socket there found named
    cases there.symm.trans found
    exact dead live

theorem SameConnection.others (same : SameConnection client next)
    (feed : ∀ query, query ≠ id → next.feed query = client.feed query)
    (pending : ∀ query, query ≠ id →
      next.pendingStreamFrames.get query = client.pendingStreamFrames.get query)
    (other : LocalSocket) (away : other.streamId ≠ id) :
    SameFor client next other ∧ (next.ended other = true → client.ended other = true) := by
  refine ⟨same.sameFor (feed _ away) (pending _ away), ?_⟩
  rw [same.ended (congrArg Feed.closed (feed _ away))]
  exact fun finished => finished

section

variable (sound : StreamsSound client)

include sound

theorem StreamsSound.pending_none (found : client.locals[index]? = some socket)
    (there : socket.phase ≠ .connecting) :
    client.pendingStreamFrames.get socket.streamId = none := by
  by_contra present
  rcases sound.kept _ present with ⟨place, other, held, named, connecting, _⟩
  obtain rfl := sound.unique place index other socket held found named
  cases held.symm.trans found
  exact there connecting

theorem feed_of_data {data : String} (found : client.locals[index]? = some socket)
    (running : client.ended socket = false)
    (received : next.received = client.received ++ [.streamData socket.streamId data]) :
    next.feed socket.streamId = { client.feed socket.streamId with
      data := (client.feed socket.streamId).data ++ [data] } ∧
    ∀ query, query ≠ socket.streamId → next.feed query = client.feed query := by
  have notClosed : (client.feed socket.streamId).closed = false := by
    simp only [TunnelClient.ended, Bool.or_eq_false_iff] at running
    exact running.1.1
  refine ⟨?_, ?_⟩
  · rw [feed_of_received received, Feed.note,
      if_pos ⟨rfl, (sound.sockets index socket found).opened, notClosed⟩]
  · intro query away
    rw [feed_of_received received, Feed.note, if_neg fun about => away about.1.symm]

theorem StreamsSound.keep (same : SameConnection client next) {data : String}
    (found : client.locals[index]? = some socket) (connecting : socket.phase = .connecting)
    (running : client.ended socket = false)
    (received : next.received = client.received ++ [.streamData socket.streamId data])
    (locals : next.locals = client.locals) (localStreams : next.localStreams = client.localStreams)
    (pending : next.pendingStreamFrames = client.pendingStreamFrames.set socket.streamId
      ((client.pendingStreamFrames.get socket.streamId).getD [] ++ [data]))
    (sent : next.sent = client.sent) : StreamsSound next := by
  have known := sound.sockets index socket found
  have waiting := known.waiting connecting
  rcases feed_of_data sound found running received with ⟨feed, elsewhere⟩
  have still : next.ended socket = false := by
    rw [same.ended (by rw [feed]), running]
  have untouched : ∀ query, query ≠ socket.streamId →
      next.pendingStreamFrames.get query = client.pendingStreamFrames.get query := by
    intro query away
    rw [pending, get_set, if_neg away]
  have changes : ChangesOne client next index socket socket := by
    refine ⟨found, by rw [locals, found], fun other _ => by rw [locals], rfl, rfl,
      fun place other _ => same.others elsewhere untouched other, ?_, untouched,
      fun _ => ⟨connecting, still⟩, fun spoken member => .inl (sent ▸ member)⟩
    intro query
    rw [localStreams, ← sound.get_of_found found]
    split
    · rename_i about
      rw [about]
    · rfl
  apply sound.change changes
  refine ⟨known.named, by rw [feed]; exact known.opened, by rw [same.length]; exact known.carried,
    by rw [waiting.1]; exact nil_prefix, fun _ => ⟨waiting.1, fun _ => ?_⟩, ?_, ?_⟩
  · rw [feed, pending, get_set, if_pos rfl, ← waiting.2 running]
    rfl
  · rw [connecting]
    rintro (phase | phase) <;> cases phase
  · rw [connecting]
    nofun

theorem StreamsSound.pass (same : SameConnection client next) {data : String}
    (found : client.locals[index]? = some socket) (live : socket.phase = .live)
    (running : client.ended socket = false)
    (received : next.received = client.received ++ [.streamData socket.streamId data])
    (locals : next.locals = client.locals.modify index (LocalSocket.send [data]))
    (localStreams : next.localStreams = client.localStreams)
    (pending : next.pendingStreamFrames = client.pendingStreamFrames)
    (sent : next.sent = client.sent) : StreamsSound next := by
  have known := sound.sockets index socket found
  rcases feed_of_data sound found running received with ⟨feed, elsewhere⟩
  have untouched : ∀ query, query ≠ socket.streamId →
      next.pendingStreamFrames.get query = client.pendingStreamFrames.get query :=
    fun query _ => by rw [pending]
  have sends : socket.send [data] = { socket with sent := socket.sent ++ [data] } := by
    rw [LocalSocket.send, if_pos live]
  have changes : ChangesOne client next index socket
      { socket with sent := socket.sent ++ [data] } := by
    refine ⟨found, ?_, ?_, rfl, rfl, fun place other _ => same.others elsewhere untouched other,
      ?_, untouched, ?_, fun spoken member => .inl (sent ▸ member)⟩
    · rw [locals, Cells.getElem?_modify, if_pos rfl, found, map_some, sends]
    · intro other away
      rw [locals, Cells.getElem?_modify, if_neg (Ne.symm away)]
    · intro query
      rw [localStreams, ← sound.get_of_found found]
      split
      · rename_i about
        rw [about]
      · rfl
    · rw [pending, sound.pending_none found (by simp [live])]
      exact fun present => absurd rfl present
  apply sound.change changes
  have whole : socket.sent ++ [data] = (next.feed socket.streamId).data := by
    rw [feed, known.complete (.inl live)]
  refine ⟨known.named, by rw [feed]; exact known.opened, by rw [same.length]; exact known.carried,
    whole ▸ prefix_rfl, ?_, fun _ => whole, fun _ => ?_⟩
  · rw [live]
    nofun
  · have ended := @SameConnection.ended _ _ same socket (by rw [feed])
    exact ended.trans running

theorem StreamsSound.data {id data : String} (serves : client.serves id)
    (same : SameConnection client
      ({ client with received := client.received ++ [BrokerFrame.streamData id data]
        }.relay id data)) :
    StreamsSound
      ({ client with received := client.received ++ [BrokerFrame.streamData id data]
        }.relay id data) := by
  rcases serves with ⟨socket, member, rfl, up, running⟩
  rcases getElem?_of_mem member with ⟨index, found⟩
  have listed := sound.get_of_found found
  cases phase : socket.phase with
  | closing | closed => simp [phase, SocketPhase.isUp] at up
  | connecting =>
    rw [phase, if_neg (by simp)] at listed
    simp only [TunnelClient.relay, listed] at same ⊢
    exact sound.keep same found phase running rfl rfl rfl rfl rfl
  | live =>
    rw [if_pos phase] at listed
    simp only [TunnelClient.relay, listed] at same ⊢
    exact sound.pass same found phase running rfl rfl rfl rfl rfl

end

theorem feed_of_close (received : next.received = client.received ++ [.streamClose id]) :
    next.feed id = { client.feed id with closed := true } ∧
      ∀ query, query ≠ id → next.feed query = client.feed query := by
  refine ⟨?_, ?_⟩
  · rw [feed_of_received received, Feed.note, if_pos rfl]
  · intro query away
    rw [feed_of_received received, Feed.note, if_neg (Ne.symm away)]

theorem StreamsSound.close (sound : StreamsSound client) (same : SameConnection client next)
    (found : client.locals[index]? = some socket)
    (received : next.received = client.received ++ [.streamClose socket.streamId])
    (closed : next = { client with received := next.received }.closeStream socket.streamId) :
    StreamsSound next := by
  have known := sound.sockets index socket found
  have listed := sound.get_of_found found
  rcases feed_of_close received with ⟨feed, elsewhere⟩
  have pending : ∀ query, next.pendingStreamFrames.get query =
      if query = socket.streamId then none else client.pendingStreamFrames.get query := by
    intro query
    rw [closed]
    exact OrderedMap.get_delete ..
  have localStreams : ∀ query, next.localStreams.get query =
      if query = socket.streamId then none else client.localStreams.get query := by
    intro query
    rw [closed]
    exact OrderedMap.get_delete ..
  have finished : ∀ other : LocalSocket, other.streamId = socket.streamId →
      next.ended other = true := by
    intro other named
    rw [TunnelClient.ended, named, feed]
    rfl
  have locals : next.locals = if socket.phase = .live then
      client.locals.modify index LocalSocket.close else client.locals := by
    rw [closed]
    simp only [TunnelClient.closeStream, listed]
    split
    · rfl
    · rfl
  have changes : ChangesOne client next index socket
      (if socket.phase = .live then socket.close else socket) := by
    refine ⟨found, ?_, ?_, by split <;> rfl, by split <;> rfl,
      fun place other _ => same.others elsewhere (fun query away => ?_) other, ?_, ?_, ?_, ?_⟩
    · rw [locals]
      split
      · rw [Cells.getElem?_modify, if_pos rfl, found, map_some]
      · exact found
    · intro other away
      rw [locals]
      split
      · rw [Cells.getElem?_modify, if_neg (Ne.symm away)]
      · rfl
    · rw [pending, if_neg away]
    · intro query
      rw [localStreams]
      split
      · split
        · rename_i live
          simp [LocalSocket.close, live, SocketPhase.close]
        · rfl
      · rfl
    · exact fun query away => by rw [pending, if_neg away]
    · rw [pending, if_pos rfl]
      exact fun present => absurd rfl present
    · rw [closed]
      exact fun spoken member => .inl member
  apply sound.change changes
  split
  · rename_i live
    have complete := known.complete (.inl live)
    refine ⟨known.named, by rw [LocalSocket.close, feed]; exact known.opened,
      by rw [same.length]; exact known.carried,
      by rw [LocalSocket.close, feed]; exact known.inOrder,
      ?_, fun _ => by rw [LocalSocket.close, feed]; exact complete, ?_⟩
    · rw [LocalSocket.close, live]
      intro phase
      cases phase
    · rw [LocalSocket.close, live]
      intro phase
      cases phase
  · rename_i dead
    refine ⟨known.named, by rw [feed]; exact known.opened, by rw [same.length]; exact known.carried,
      by rw [feed]; exact known.inOrder, fun connecting => ⟨(known.waiting connecting).1, ?_⟩,
      by rw [feed]; exact known.complete, fun live => absurd live dead⟩
    rw [finished socket rfl]
    intro running
    cases running

theorem StreamsSound.closeNone (sound : StreamsSound client) (same : SameConnection client next)
    (none : ∀ (index : Nat) (socket : LocalSocket),
      client.locals[index]? = some socket → socket.streamId ≠ id)
    (received : next.received = client.received ++ [.streamClose id])
    (closed : next = { client with received := next.received }.closeStream id) :
    StreamsSound next := by
  have unlisted : client.localStreams.get id = Option.none := by
    by_contra present
    rcases ne_none_iff_exists'.mp present with ⟨index, listed⟩
    rcases (sound.listed id index).mp listed with ⟨socket, found, named, _⟩
    exact none index socket found named
  have unkept : client.pendingStreamFrames.get id = Option.none := by
    by_contra present
    rcases sound.kept id present with ⟨index, socket, found, named, _⟩
    exact none index socket found named
  refine sound.unheard same received ?_ ?_ ?_ ?_ ?_
  · intro index socket found
    rw [Feed.note, if_neg (none index socket found).symm]
  · rw [closed]
    simp [TunnelClient.closeStream, unlisted, Cells.modifyAll]
  · intro query
    rw [closed]
    simp only [TunnelClient.closeStream, OrderedMap.get_delete]
    split
    · rename_i about
      rw [about, unlisted]
    · rfl
  · intro query
    rw [closed]
    simp only [TunnelClient.closeStream, OrderedMap.get_delete]
    split
    · rename_i about
      rw [about, unkept]
    · rfl
  · rw [closed]
    exact fun sent spoken _ => spoken

theorem StreamsSound.localOpened (sound : StreamsSound client)
    (found : client.locals[index]? = some socket) (connecting : socket.phase = .connecting)
    (running : client.ended socket = false) :
    StreamsSound (client.localOpened index socket.streamId) := by
  have known := sound.sockets index socket found
  have waiting := known.waiting connecting
  have same : SameConnection client (client.localOpened index socket.streamId) :=
    .of_fields rfl rfl rfl rfl rfl
  have feed : ∀ query, (client.localOpened index socket.streamId).feed query = client.feed query :=
    feed_of_same rfl
  have untouched : ∀ query, query ≠ socket.streamId →
      (client.localOpened index socket.streamId).pendingStreamFrames.get query =
        client.pendingStreamFrames.get query := by
    intro query away
    rw [TunnelClient.localOpened, OrderedMap.get_delete, if_neg away]
  have flushed : { socket with phase := .live }.send
      ((client.pendingStreamFrames.get socket.streamId).getD []) =
        { socket with phase := .live, sent := (client.feed socket.streamId).data } := by
    rw [LocalSocket.send, if_pos rfl, waiting.1, waiting.2 running]
    rfl
  have changes : ChangesOne client (client.localOpened index socket.streamId) index socket
      { socket with phase := .live, sent := (client.feed socket.streamId).data } := by
    refine ⟨found, ?_, ?_, rfl, rfl,
      fun place other _ => same.others (fun query _ => feed query) untouched other, ?_, untouched,
      ?_, fun spoken member => .inl member⟩
    · rw [TunnelClient.localOpened, Cells.getElem?_modify, if_pos rfl, found, map_some, flushed]
    · intro other away
      rw [TunnelClient.localOpened, Cells.getElem?_modify, if_neg (Ne.symm away)]
    · intro query
      rw [TunnelClient.localOpened, get_set, if_pos rfl]
    · rw [TunnelClient.localOpened, OrderedMap.get_delete, if_pos rfl]
      exact fun present => absurd rfl present
  apply sound.change changes
  refine ⟨known.named, by rw [feed]; exact known.opened, known.carried,
    by simp only [feed, prefix_rfl], fun phase => (by cases phase), fun _ => by rw [feed],
    fun _ => ?_⟩
  have ended := @SameConnection.ended _ _ same socket (congrArg Feed.closed (feed _))
  exact ended.trans running

theorem sent_send {frame : HubFrame} {carrier : Nat} {id : String}
    (about : frame.streamId = some id) (current : ∀ ws ∈ client.ws, ws = carrier) :
    ∀ sent ∈ (client.send frame).sent, sent ∈ client.sent ∨
      (sent.1 = carrier ∧ sent.2.streamId = some id) := by
  intro sent spoken
  rw [TunnelClient.send] at spoken
  split at spoken
  · rename_i ws present
    rcases mem_append.mp spoken with old | new
    · exact .inl old
    · obtain rfl := mem_singleton.mp new
      exact .inr ⟨current ws present, about⟩
  · exact .inl spoken

theorem send_fields (frame : HubFrame) :
    (client.send frame).locals = client.locals ∧
      (client.send frame).localStreams = client.localStreams ∧
      (client.send frame).pendingStreamFrames = client.pendingStreamFrames ∧
      (client.send frame).received = client.received := by
  rw [TunnelClient.send]
  split <;> exact ⟨rfl, rfl, rfl, rfl⟩

section

variable (sound : StreamsSound client)

include sound

theorem StreamsSound.localMessage (runs : TunnelRuns client) {data : String}
    (found : client.locals[index]? = some socket) (live : socket.phase = .live) :
    StreamsSound (client.send (.streamData socket.streamId data)) := by
  have known := sound.sockets index socket found
  have current := runs.ws (known.closed live)
  have sends := @sent_send client (.streamData socket.streamId data) socket.carrier
    socket.streamId rfl fun ws present => some.inj (present.symm.trans current)
  have same := @sameConnection_send client (.streamData socket.streamId data)
  rcases @send_fields client (.streamData socket.streamId data) with
    ⟨locals, localStreams, pending, received⟩
  have feed := feed_of_same received
  have others : ∀ other : LocalSocket, SameFor client _ other :=
    fun other => same.sameFor (feed _) (by rw [pending])
  refine sound.change ⟨found, by rw [locals, found], fun _ _ => by rw [locals], rfl, rfl,
    fun place other _ => same.others (fun query _ => feed query)
      (fun query _ => by rw [pending]) other, ?_, fun _ _ => by rw [pending], ?_, sends⟩
    ((others socket).carry known)
  · intro query
    rw [localStreams, ← sound.get_of_found found]
    split
    · rename_i about
      rw [about]
    · rfl
  · rw [pending]
    intro present
    exact absurd (sound.pending_none found (by simp [live])) present

theorem StreamsSound.localClosed (found : client.locals[index]? = some socket)
    (pending : client.pendingStreamFrames.get socket.streamId = none)
    (current : ∀ ws ∈ client.ws, ws = socket.carrier) :
    StreamsSound (client.localClosed index socket.streamId) := by
  have known := sound.sockets index socket found
  have sends := @sent_send (client.delist index socket.streamId) (.streamClose socket.streamId)
    socket.carrier socket.streamId rfl current
  have same := @sameConnection_localClosed client index socket.streamId
  have fields : (client.localClosed index socket.streamId).locals =
        (client.delist index socket.streamId).locals ∧
      (client.localClosed index socket.streamId).localStreams =
        (client.delist index socket.streamId).localStreams ∧
      (client.localClosed index socket.streamId).pendingStreamFrames = client.pendingStreamFrames ∧
      (client.localClosed index socket.streamId).received = client.received :=
    send_fields _
  rcases fields with ⟨locals, localStreams, kept, received⟩
  have feed := feed_of_same received
  have changes : ChangesOne client (client.localClosed index socket.streamId) index socket
      { socket with phase := .closed } := by
    refine ⟨found, ?_, ?_, rfl, rfl, fun place other _ => same.others (fun query _ => feed query)
        (fun query _ => by rw [kept]) other, ?_, fun query _ => by rw [kept], ?_, sends⟩
    · rw [locals, TunnelClient.delist, Cells.getElem?_modify, if_pos rfl, found, map_some]
    · intro other away
      rw [locals, TunnelClient.delist, Cells.getElem?_modify, if_neg (Ne.symm away)]
    · intro query
      rw [localStreams, TunnelClient.delist, OrderedMap.get_delete]
      rfl
    · rw [kept, pending]
      exact fun present => absurd rfl present
  apply sound.change changes
  refine ⟨known.named, by rw [feed]; exact known.opened, by rw [same.length]; exact known.carried,
    by rw [feed]; exact known.inOrder, fun phase => (by cases phase),
    fun phase => (by rcases phase with phase | phase <;> cases phase), fun phase =>
      (by cases phase)⟩

/-! ### The end of a connection -/

theorem StreamsSound.stop
    (empty : client.pendingStreamFrames = OrderedMap.empty) : StreamsSound client.stop := by
  have stored : client.localStreams.values.Nodup := by
    apply nodup_values fun index => client.locals[index]?.map LocalSocket.streamId
    intro id index listed
    rcases (sound.listed id index).mp listed with ⟨socket, found, named, _⟩
    rw [found, map_some, named]
  have values : ∀ (index : Nat) (socket : LocalSocket), client.locals[index]? = some socket →
      (index ∈ client.localStreams.values ↔ socket.phase = .live) := by
    intro index socket found
    rw [mem_values_iff]
    constructor
    · rintro ⟨id, listed⟩
      rcases (sound.listed id index).mp listed with ⟨other, there, _, live⟩
      cases found.symm.trans there
      exact live
    · intro live
      exact ⟨socket.streamId, (sound.listed _ _).mpr ⟨socket, found, rfl, live⟩⟩
  -- what becomes of a socket
  have closes : ∀ (index : Nat) (socket : LocalSocket), client.locals[index]? = some socket →
      client.stop.locals[index]? =
        some (if socket.phase = .live then socket.close else socket) := by
    intro index socket found
    rw [TunnelClient.stop, Cells.getElem?_modifyAll _ stored, found, map_some]
    by_cases live : socket.phase = .live
    · rw [if_pos ((values index socket found).mpr live), if_pos live]
    · rw [if_neg (mt (values index socket found).mp live), if_neg live]
  have before : ∀ (index : Nat) (socket : LocalSocket), client.stop.locals[index]? = some socket →
      ∃ old, client.locals[index]? = some old ∧
        socket = if old.phase = .live then old.close else old := by
    intro index socket found
    cases old : client.locals[index]? with
    | none =>
      rw [TunnelClient.stop, Cells.getElem?_modifyAll _ stored, old] at found
      simp at found
    | some other => exact ⟨other, rfl, some.inj (found.symm.trans (closes index other old))⟩
  have named : ∀ old : LocalSocket,
      (if old.phase = .live then old.close else old).streamId = old.streamId ∧
        (if old.phase = .live then old.close else old).carrier = old.carrier ∧
        (if old.phase = .live then old.close else old).sent = old.sent := by
    intro old
    split <;> exact ⟨rfl, rfl, rfl⟩
  have length : client.stop.sockets.length = client.sockets.length := by
    exact List.foldlRecOn (motive := fun sockets : List SocketPhase =>
      sockets.length = client.sockets.length) _ _ rfl
        fun sockets same socket _ => (length_modify ..).trans same
  have finished : ∀ socket, client.stop.ended socket = true := fun socket => Bool.or_true _
  have feed : ∀ id, client.stop.feed id = client.feed id := feed_of_same rfl
  refine ⟨?_, ?_, ?_, ?_, ?_⟩
  · intro index socket found
    rcases before index socket found with ⟨old, there, rfl⟩
    have known := sound.sockets index old there
    rcases named old with ⟨same, carried, sent⟩
    refine ⟨by rw [same]; exact known.named, by rw [feed, same]; exact known.opened,
      by rw [carried, length]; exact known.carried, by rw [feed, same, sent]; exact known.inOrder,
      ?_, ?_, ?_⟩
    · intro connecting
      split at connecting
      · rename_i live
        simp [LocalSocket.close, live, SocketPhase.close] at connecting
      · rw [sent]
        refine ⟨(known.waiting connecting).1, fun running => ?_⟩
        rw [finished] at running
        cases running
    · intro phase
      rw [feed, same, sent]
      split at phase
      · rename_i live
        exact known.complete (.inl live)
      · exact known.complete phase
    · intro phase
      split at phase
      · rename_i live
        simp [LocalSocket.close, live, SocketPhase.close] at phase
      · rename_i dead
        exact absurd phase dead
  · intro first second one two found there alike
    rcases before first one found with ⟨oldOne, foundOne, rfl⟩
    rcases before second two there with ⟨oldTwo, foundTwo, rfl⟩
    rw [(named oldOne).1, (named oldTwo).1] at alike
    exact sound.unique first second oldOne oldTwo foundOne foundTwo alike
  · intro id index
    constructor
    · intro listed
      simp [TunnelClient.stop] at listed
    · rintro ⟨socket, found, _, live⟩
      rcases before index socket found with ⟨old, there, rfl⟩
      split at live
      · rename_i was
        simp [LocalSocket.close, was, SocketPhase.close] at live
      · rename_i dead
        exact absurd live dead
  · intro frame spoken id about
    rcases sound.forwarded frame spoken id about with ⟨index, socket, found, same, carried⟩
    exact ⟨index, _, closes index socket found, (named socket).1.trans same,
      (named socket).2.1.trans carried⟩
  · intro id present
    simp [TunnelClient.stop, empty] at present

theorem StreamsSound.brokerClosed (idle : ∀ socket ∈ client.locals, socket.carrier = carrier →
      socket.phase ≠ .live ∧ client.pendingStreamFrames.get socket.streamId = none) :
    StreamsSound (client.brokerClosed carrier) := by
  have isUp : ∀ other, (client.brokerClosed carrier).isUp other =
      if carrier = other then client.sockets[other]?.any fun _ => false else client.isUp other :=
    fun other => @isUp_modify client (client.brokerClosed carrier) carrier other _ rfl
  refine sound.quiet rfl (fun _ => rfl) (fun _ => rfl) (fun _ spoken _ => spoken) ?_
  intro index socket found
  refine ⟨rfl, Nat.le_of_eq (length_modify ..).symm, ?_, ?_, rfl⟩
  · intro finished
    simp only [TunnelClient.ended, Bool.or_eq_true, Bool.not_eq_true'] at finished ⊢
    rcases finished with (closed | down) | stopped
    · exact .inl (.inl closed)
    · refine .inl (.inr ?_)
      rw [isUp, down]
      split
      · cases client.sockets[socket.carrier]? <;> rfl
      · rfl
    · exact .inr stopped
  · intro finished
    by_cases carried : socket.carrier = carrier
    · exact .inr (idle socket (mem_of_getElem? found) carried)
    · rw [TunnelClient.ended, isUp, if_neg (Ne.symm carried)] at finished
      exact .inl finished

theorem StreamsSound.reconnect (timers : Nat) :
    StreamsSound { client with timers := timers }.connect := by
  rw [TunnelClient.connect]
  split
  · exact sound.quiet rfl (fun _ => rfl) (fun _ => rfl) (fun _ spoken _ => spoken)
      fun _ _ _ => ⟨rfl, Nat.le_refl _, fun finished => finished, .inl, rfl⟩
  · refine sound.quiet rfl (fun _ => rfl) (fun _ => rfl) (fun _ spoken _ => spoken) ?_
    intro index socket found
    have old := Nat.ne_of_lt (sound.sockets index socket found).carried
    have isUp : ∀ authed ws, { client with
        timers := timers, ws := ws, authed := authed,
        sockets := client.sockets ++ [SocketPhase.connecting] }.isUp socket.carrier =
          client.isUp socket.carrier := by
      intro authed ws
      rw [TunnelClient.isUp, TunnelClient.isUp, Cells.getElem?_concat, if_neg old]
    refine ⟨rfl, by simp, ?_, ?_, rfl⟩
    · rw [TunnelClient.ended, TunnelClient.ended, isUp]
      exact fun finished => finished
    · rw [TunnelClient.ended, TunnelClient.ended, isUp]
      exact .inl

theorem streamsSound_frame {frame : BrokerFrame}
    (carried : carrier < client.sockets.length) (fresh : opensFresh client (.frame carrier frame))
    (inTime : streamEndsInTime client (.frame carrier frame)) :
    StreamsSound ({ client with received := client.received ++ [frame] }.onFrame
      carrier frame) := by
  have noted : SameConnection client { client with received := client.received ++ [frame] } :=
    .of_fields rfl rfl rfl rfl rfl
  have same := noted.trans (sameConnection_onFrame carrier frame)
  -- a frame that is not acted upon, and that no socket's stream is about
  have ignored : (∀ (index : Nat) (socket : LocalSocket), client.locals[index]? = some socket →
      (client.feed socket.streamId).note socket.streamId frame = client.feed socket.streamId) →
      StreamsSound { client with received := client.received ++ [frame] } := fun unheard =>
    sound.unheard noted rfl unheard rfl (fun _ => rfl) (fun _ => rfl) fun _ spoken _ => spoken
  cases frame with
  | challenge nonce =>
    rw [TunnelClient.onFrame]
    split
    · exact ignored fun _ _ _ => rfl
    · rename_i answers
      rw [TunnelClient.onFrame, if_neg answers] at same
      rcases @send_fields { client with received := client.received ++
        [BrokerFrame.challenge nonce] }
        (.auth nonce) with ⟨locals, localStreams, pending, received⟩
      refine sound.unheard same received (fun _ _ _ => rfl) locals (fun _ => by rw [localStreams])
        (fun _ => by rw [pending]) ?_
      intro sent spoken about
      rw [TunnelClient.send] at spoken
      split at spoken
      · rcases mem_append.mp spoken with old | new
        · exact old
        · rw [mem_singleton.mp new] at about
          exact absurd rfl about
      · exact spoken
  | ready =>
    exact sound.unheard same rfl (fun _ _ _ => rfl) rfl (fun _ => rfl) (fun _ => rfl)
      fun _ spoken _ => spoken
  | other => exact ignored fun _ _ _ => rfl
  | streamOpen id path =>
    rw [TunnelClient.onFrame]
    split
    · rename_i accepted
      rw [TunnelClient.onFrame, if_pos accepted] at same
      exact sound.opened same fresh accepted.2.1 carried rfl rfl rfl rfl rfl
    · apply ignored
      intro index socket found
      rw [Feed.note, if_neg]
      rintro rfl
      rw [opensFresh, (sound.sockets index socket found).opened] at fresh
      cases fresh
  | streamData id data =>
    rw [TunnelClient.onFrame]
    split
    · rename_i unnamed
      apply ignored
      intro index socket found
      rw [Feed.note, if_neg]
      rintro ⟨rfl, _⟩
      exact (sound.sockets index socket found).named unnamed
    · rename_i named
      rw [TunnelClient.onFrame, if_neg named] at same
      exact sound.data (inTime.resolve_left named) same
  | streamClose id =>
    rw [TunnelClient.onFrame]
    split
    · rename_i unnamed
      apply ignored
      intro index socket found
      rw [Feed.note, if_neg]
      rintro rfl
      exact (sound.sockets index socket found).named unnamed
    · rename_i named
      rw [TunnelClient.onFrame, if_neg named] at same
      by_cases mine : ∃ (index : Nat) (socket : LocalSocket),
          client.locals[index]? = some socket ∧ socket.streamId = id
      · rcases mine with ⟨index, socket, found, rfl⟩
        exact sound.close same found rfl rfl
      · refine sound.closeNone same ?_ rfl rfl
        exact fun index socket found about => mine ⟨index, socket, found, about⟩

end

/-- Nothing that is in the broker's power undoes what is known, if streams end in time. -/
theorem streamsSound_step (runs : TunnelRuns client)
    (sound : StreamsSound client) (fresh : opensFresh client event)
    (inTime : streamEndsInTime client event) (taken : client.handle event = some next) :
    StreamsSound next := by
  cases event with
  | stop =>
    cases taken
    exact sound.stop inTime
  | frame carrier frame =>
    simp only [TunnelClient.handle] at taken
    split at taken
    · rename_i up
      cases taken
      exact streamsSound_frame sound (Cells.lt_of_getElem? up) fresh inTime
    · cases taken
  | brokerOpened socket =>
    simp only [TunnelClient.handle] at taken
    split at taken
    · rename_i pending
      cases taken
      exact sound.quiet rfl (fun _ => rfl) (fun _ => rfl) (fun _ spoken _ => spoken)
        fun _ _ _ => (sameConnection_brokerOpened pending).sameFor rfl rfl
    · cases taken
  | brokerClosed socket =>
    simp only [TunnelClient.handle] at taken
    split at taken
    · cases taken
    · cases taken
    · cases taken
      exact sound.brokerClosed inTime
  | reconnect =>
    simp only [TunnelClient.handle] at taken
    split at taken
    · cases taken
    · cases taken
      exact sound.reconnect _
  | localOpened index =>
    simp only [TunnelClient.handle] at taken
    split at taken
    · rename_i found
      cases taken
      exact sound.localOpened found rfl (inTime _ found)
    · cases taken
  | localMessage index data =>
    simp only [TunnelClient.handle] at taken
    split at taken
    · rename_i found
      cases taken
      exact sound.localMessage runs found rfl
    · cases taken
  | localClosed index =>
    simp only [TunnelClient.handle] at taken
    split at taken
    · cases taken
    · cases taken
    · rename_i found
      cases taken
      rcases inTime _ found with ⟨pending, current⟩
      exact sound.localClosed found pending current

theorem streamEndsInTime_data {data : String} (good : StreamsServed client)
    (sound : StreamsSound client) (served : StreamsServed
      ({ client with received := client.received ++ [BrokerFrame.streamData id data] }.onFrame
        carrier (.streamData id data))) :
    streamEndsInTime client (.frame carrier (.streamData id data)) := by
  by_cases unnamed : id = ""
  · exact .inl unnamed
  · refine .inr ?_
    rw [TunnelClient.onFrame, if_neg unnamed, TunnelClient.relay] at served
    cases listed : client.localStreams.get id with
    | some index =>
      rcases (sound.listed id index).mp listed with ⟨socket, found, named, live⟩
      have member := mem_of_getElem? found
      refine ⟨socket, member, named, by rw [live]; rfl, ?_⟩
      by_contra finished
      exact good.closed socket member (eq_true_of_ne_false finished) live
    | none =>
      simp only [listed] at served
      rcases served.kept id (by simp) with ⟨socket, member, named, connecting, running⟩
      refine ⟨socket, member, named, by rw [connecting]; rfl, ?_⟩
      simp only [TunnelClient.ended, Bool.or_eq_false_iff] at running ⊢
      refine ⟨⟨?_, running.1.2⟩, running.2⟩
      have closed := running.1.1
      rw [@feed_of_received client _ (.streamData id data) rfl, Feed.note] at closed
      split at closed <;> exact closed

theorem streamEndsInTime_stop (served : StreamsServed client.stop) :
    streamEndsInTime client .stop := by
  apply eq_empty_of_get
  intro id
  by_contra present
  rcases served.kept id present with ⟨socket, _, _, _, running⟩
  simp [TunnelClient.ended, TunnelClient.stop] at running

theorem streamEndsInTime_brokerClosed (sound : StreamsSound client)
    (served : StreamsServed (client.brokerClosed carrier)) :
    streamEndsInTime client (.brokerClosed carrier) := by
  have finished : ∀ socket : LocalSocket, socket.carrier = carrier →
      (client.brokerClosed carrier).ended socket = true := by
    rintro socket rfl
    have down : (client.brokerClosed socket.carrier).isUp socket.carrier = false := by
      rw [@isUp_modify client (client.brokerClosed socket.carrier) socket.carrier _ _ rfl,
        if_pos rfl]
      cases client.sockets[socket.carrier]? <;> rfl
    rw [TunnelClient.ended, down]
    simp
  intro socket member carried
  refine ⟨served.closed socket member (finished socket carried), ?_⟩
  by_contra present
  rcases served.kept socket.streamId present with ⟨other, there, named, _, running⟩
  rcases getElem?_of_mem member with ⟨index, found⟩
  rcases getElem?_of_mem there with ⟨place, foundOther⟩
  obtain rfl := sound.unique place index other socket foundOther found named
  cases found.symm.trans foundOther
  rw [finished socket carried] at running
  cases running

theorem streamEndsInTime_localOpened (found : client.locals[index]? = some socket)
    (served : StreamsServed (client.localOpened index socket.streamId)) :
    client.ended socket = false := by
  have opened : (client.localOpened index socket.streamId).locals[index]? =
      some ({ socket with phase := .live }.send
        ((client.pendingStreamFrames.get socket.streamId).getD [])) := by
    rw [TunnelClient.localOpened, Cells.getElem?_modify, if_pos rfl, found, map_some]
  by_contra finished
  refine served.closed _ (mem_of_getElem? opened) ?_ ?_
  · rw [LocalSocket.send, if_pos rfl]
    exact eq_true_of_ne_false finished
  · rw [LocalSocket.send, if_pos rfl]

theorem streamEndsInTime_localClosed
    (sound : StreamsSound client) (found : client.locals[index]? = some socket)
    (served : StreamsServed (client.localClosed index socket.streamId)) :
    client.pendingStreamFrames.get socket.streamId = none ∧
      ∀ current ∈ client.ws, current = socket.carrier := by
  rcases @send_fields (client.delist index socket.streamId) (.streamClose socket.streamId) with
    ⟨locals, _, kept, _⟩
  have closed : (client.localClosed index socket.streamId).locals[index]? =
      some { socket with phase := .closed } := by
    rw [TunnelClient.localClosed, locals, TunnelClient.delist, Cells.getElem?_modify, if_pos rfl,
      found, map_some]
  refine ⟨?_, ?_⟩
  · by_contra present
    rw [TunnelClient.localClosed] at served
    rcases served.kept socket.streamId (by rw [kept]; exact present) with
      ⟨other, there, named, connecting, _⟩
    rw [locals, TunnelClient.delist] at there
    rcases getElem?_of_mem there with ⟨place, foundOther⟩
    rw [Cells.getElem?_modify] at foundOther
    split at foundOther
    · rename_i same
      subst same
      rw [found] at foundOther
      cases foundOther
      cases connecting
    · rename_i away
      exact away (sound.unique place index other socket foundOther found named).symm
  · intro current present
    refine served.forwarded _ (mem_of_getElem? closed) (current, .streamClose socket.streamId)
      ?_ rfl
    have ws : (client.delist index socket.streamId).ws = some current := present
    rw [TunnelClient.localClosed, TunnelClient.send, ws]
    exact mem_append_right _ (mem_singleton_self _)

theorem streamsServed_step (runs : TunnelRuns client)
    (sound : StreamsSound client) (good : StreamsServed client) (fresh : opensFresh client event)
    (taken : client.handle event = some next) :
    StreamsServed next ↔ streamEndsInTime client event := by
  refine ⟨fun served => ?_, fun inTime => (streamsSound_step runs sound fresh inTime taken).served⟩
  cases event with
  | stop =>
    cases taken
    exact streamEndsInTime_stop served
  | frame carrier frame =>
    cases frame with
    | streamData id data =>
      simp only [TunnelClient.handle] at taken
      split at taken
      · cases taken
        exact streamEndsInTime_data good sound served
      · cases taken
    | challenge | ready | streamOpen | streamClose | other => trivial
  | brokerClosed socket =>
    simp only [TunnelClient.handle] at taken
    split at taken
    · cases taken
    · cases taken
    · cases taken
      exact streamEndsInTime_brokerClosed sound served
  | localOpened index =>
    simp only [TunnelClient.handle] at taken
    split at taken
    · rename_i found
      cases taken
      intro socket there
      cases found.symm.trans there
      exact streamEndsInTime_localOpened found served
    · cases taken
  | localClosed index =>
    simp only [TunnelClient.handle] at taken
    split at taken
    · cases taken
    · cases taken
    · rename_i found
      cases taken
      intro socket there
      cases found.symm.trans there
      exact streamEndsInTime_localClosed sound found served
  | brokerOpened | reconnect | localMessage => trivial

end Steps

theorem tunnelRuns_start : TunnelRuns TunnelClient.initial.start := by
  have step : tunnelMachine.step TunnelClient.initial .start = some TunnelClient.initial.start :=
    rfl
  refine ⟨connectionSound_step connectionSound_initial oneConnection_initial step,
    (oneConnection_step connectionSound_initial oneConnection_initial step).mpr rfl, ?_⟩
  intro _ socket closing
  have member := mem_of_getElem? closing
  simp [TunnelClient.initial, TunnelClient.start, TunnelClient.connect] at member

theorem streamsSound_start : StreamsSound TunnelClient.initial.start where
  sockets := fun index socket found => absurd (mem_of_getElem? found) not_mem_nil
  unique := fun index _ socket _ found => absurd (mem_of_getElem? found) not_mem_nil
  listed := fun id index => by
    constructor
    · nofun
    · rintro ⟨socket, found, _⟩
      exact absurd (mem_of_getElem? found) not_mem_nil
  forwarded := fun sent spoken => absurd spoken not_mem_nil
  kept := fun id present => absurd rfl present

/--
When the broker opens each stream under a new id, local sockets get what comes
for their streams and are closed with them in exactly the runs in which no
stream ends while its socket is on its way and is then opened, no connection is
lost under an open socket, and no data comes for a stream that is not open.
-/
theorem streamsServed_throughout_iff (events : List TunnelEvent)
    (fresh : startedTunnelMachine.Guarded opensFresh TunnelClient.initial.start events) :
    startedTunnelMachine.Throughout StreamsServed TunnelClient.initial.start events ↔
      startedTunnelMachine.Guarded streamEndsInTime TunnelClient.initial.start events :=
  Machine.throughout_iff_guarded_of_assumed
    (fun client => TunnelRuns client ∧ StreamsSound client) opensFresh
    (fun _ _ _ known good fresh taken => streamsServed_step known.1 known.2 good fresh taken)
    (fun _ _ _ known _ fresh inTime taken =>
      ⟨tunnelRuns_step known.1 taken, streamsSound_step known.1 known.2 fresh inTime taken⟩)
    ⟨tunnelRuns_start, streamsSound_start⟩ streamsSound_start.served fresh

/-- A stream is opened, gets data before and after its socket is open, and is closed. -/
def oneStream : List TunnelEvent :=
  [.brokerOpened 0, .frame 0 .ready, .frame 0 (.streamOpen "s1" "/v1/stream"),
    .frame 0 (.streamData "s1" "a"), .localOpened 0, .frame 0 (.streamData "s1" "b"),
    .localMessage 0 "c", .frame 0 (.streamClose "s1"), .localClosed 0, .brokerClosed 0]

theorem streamsServed_oneStream :
    startedTunnelMachine.Guarded opensFresh TunnelClient.initial.start oneStream ∧
      startedTunnelMachine.Throughout StreamsServed TunnelClient.initial.start oneStream :=
  ⟨by decide, (streamsServed_throughout_iff oneStream (by decide)).mpr (by decide)⟩

def closedOnItsWay : List TunnelEvent :=
  [.brokerOpened 0, .frame 0 .ready, .frame 0 (.streamOpen "s1" "/v1/stream"),
    .frame 0 (.streamClose "s1"), .localOpened 0]

/-- The local socket then opens all the same, and stays open. -/
theorem streamsServed_fails_closedOnItsWay :
    ¬ ∀ events : List TunnelEvent,
      startedTunnelMachine.Guarded opensFresh TunnelClient.initial.start events →
        startedTunnelMachine.Throughout StreamsServed TunnelClient.initial.start events := by
  intro every
  have reached : startedTunnelMachine.run TunnelClient.initial.start closedOnItsWay =
      some ⟨some 0, false, true, OrderedMap.empty.set "s1" 0, OrderedMap.empty, [.live], 0,
        [⟨"s1", "/v1/stream", 0, .live, []⟩], true, [],
        [.ready, .streamOpen "s1" "/v1/stream", .streamClose "s1"]⟩ := by
    decide
  have final := Machine.property_of_throughout (every closedOnItsWay (by decide)) reached
  exact final.closed ⟨"s1", "/v1/stream", 0, .live, []⟩ (by decide) (by decide) rfl

end SupremeOs.Gateway
