import SupremeOs.TunnelBroker.Requests

/-!
# The end of a stream

A stream is open as long as its connection lists it and is the one of its hub.
Superseding a connection ends its streams and leaves them in its list.  When
the old socket closes then, they are ended once more, unless their clients
have closed them in the meantime.  No other step ends a stream twice, as long
as the streams of a connection have different identifiers.
-/

namespace SupremeOs.TunnelBroker

open Support DomainModel Broker

namespace StreamEvent

def isData : StreamEvent → Bool
  | .onData .. => true
  | _ => false

def isOnClose : StreamEvent → Bool
  | .onClose .. => true
  | _ => false

/-- What comes with a frame comes with one of the hub. -/
def IsFrom (hub : HubId) : StreamEvent → Prop
  | .onData sender _ => sender = hub
  | .onClose (.frame sender) _ _ => sender = hub
  | _ => True

end StreamEvent

structure Stream.EndsOnce (broker : Broker) (stream : Stream) : Prop where
  once : stream.events.countP StreamEvent.isOnClose ≤ 1
  silent : stream.events.Pairwise fun earlier later =>
    later.isData = true → earlier.isData = true
  ended : broker.conns.get stream.hub ≠ some stream.connection →
    ∃ event ∈ stream.events, event.isData = false
  own : ∀ event ∈ stream.events, event.IsFrom stream.hub

def StreamsEndOnce (broker : Broker) : Prop :=
  ∀ (number : Nat) (stream : Stream), broker.streams[number]? = some stream → stream.EndsOnce broker

/-- A stream gets an identifier that no other stream of its connection has had. -/
def FreshStream (broker : Broker) : Label → Prop
  | .openStream hub _ now =>
    ∀ stream ∈ broker.streams, broker.conns.get hub = some stream.connection →
      stream.id ≠ streamId now broker.counter
  | _ => True

def CalmDetach (broker : Broker) : Label → Prop
  | .detach number =>
    ∀ conn ∈ broker.connections[number]?,
      broker.conns.get conn.hub = some number ∨ conn.streams.values = []
  | _ => True

instance decidableFreshStream (broker : Broker) :
    ∀ label, Decidable (FreshStream broker label) := by
  intro label
  unfold FreshStream
  split <;> infer_instance

/-- Only data has come so far. -/
def Stream.isOpen (stream : Stream) : Bool := stream.events.all StreamEvent.isData

structure Stream.Sound (broker : Broker) (number : Nat) (stream : Stream) : Prop where
  placed : broker.hubOf stream.connection = some stream.hub
  listed : stream.isOpen = true ↔
    broker.entryOf Conn.streams stream.connection stream.id = some number ∧
      broker.conns.get stream.hub = some stream.connection
  /-- What a superseded connection lists has been ended. -/
  superseded : broker.entryOf Conn.streams stream.connection stream.id = some number →
    broker.conns.get stream.hub ≠ some stream.connection →
    0 < stream.events.countP StreamEvent.isOnClose
  once : stream.events.countP StreamEvent.isOnClose ≤ 1
  silent : stream.events.Pairwise fun earlier later =>
    later.isData = true → earlier.isData = true
  own : ∀ event ∈ stream.events, event.IsFrom stream.hub

structure StreamsSound (broker : Broker) : Prop where
  current : HubsPlaced broker
  entries : ∀ connection id number, broker.entryOf Conn.streams connection id = some number →
    ∃ stream : Stream, broker.streams[number]? = some stream ∧ stream.connection = connection ∧
      stream.id = id
  /-- The streams of a connection have different identifiers. -/
  distinct : ∀ (first second : Nat) (one other : Stream), broker.streams[first]? = some one →
    broker.streams[second]? = some other → one.connection = other.connection →
    one.id = other.id → first = second
  streams : ∀ (number : Nat) (stream : Stream), broker.streams[number]? = some stream →
    stream.Sound broker number

section Events

variable {stream : Stream} {event : StreamEvent}

theorem isOpen_note : (stream.note event).isOpen = (stream.isOpen && event.isData) := by
  simp [Stream.isOpen, Stream.note]

theorem countP_of_isOpen (isOpen : stream.isOpen = true) :
    stream.events.countP StreamEvent.isOnClose = 0 := by
  rw [List.countP_eq_zero]
  intro event member
  have data := List.all_eq_true.mp isOpen event member
  cases event <;> simp_all [StreamEvent.isOnClose, StreamEvent.isData]

theorem silent_note (silent : stream.events.Pairwise fun earlier later =>
    later.isData = true → earlier.isData = true)
    (fits : event.isData = true → stream.isOpen = true) :
    (stream.note event).events.Pairwise fun earlier later =>
      later.isData = true → earlier.isData = true := by
  rw [Stream.note, List.pairwise_append]
  refine ⟨silent, List.pairwise_singleton .., ?_⟩
  intro earlier member later last data
  rw [List.mem_singleton] at last
  subst last
  exact List.all_eq_true.mp (fits data) earlier member

theorem own_note (own : ∀ event ∈ stream.events, event.IsFrom stream.hub)
    (here : event.IsFrom stream.hub) :
    ∀ other ∈ (stream.note event).events, other.IsFrom (stream.note event).hub := by
  intro other member
  rcases List.mem_append.mp member with before | last
  · exact own other before
  · rw [List.mem_singleton.mp last]
    exact here

end Events

section Preservation

variable {broker next : Broker} {number : Nat} {stream : Stream}

theorem Stream.Sound.transfer (sound : stream.Sound broker number)
    (placed : next.hubOf stream.connection = some stream.hub)
    (listed : next.entryOf Conn.streams stream.connection stream.id = some number ↔
      broker.entryOf Conn.streams stream.connection stream.id = some number)
    (current : next.conns.get stream.hub = some stream.connection ↔
      broker.conns.get stream.hub = some stream.connection) :
    stream.Sound next number := by
  refine ⟨placed, ?_, ?_, sound.once, sound.silent, sound.own⟩
  · rw [listed, current]
    exact sound.listed
  · rw [listed, Ne, current]
    exact sound.superseded

theorem Stream.Sound.ends {event : StreamEvent} (sound : stream.Sound broker number)
    (ending : event.isData = false) (here : event.IsFrom stream.hub)
    (fits : event.isOnClose = true → stream.isOpen = true)
    (placed : next.hubOf stream.connection = some stream.hub)
    (gone : next.entryOf Conn.streams stream.connection stream.id = some number →
      next.conns.get stream.hub ≠ some stream.connection ∧ event.isOnClose = true) :
    (stream.note event).Sound next number := by
  refine ⟨placed, ?_, ?_, ?_, silent_note sound.silent (by simp [ending]), own_note sound.own here⟩
  · rw [isOpen_note, ending, Bool.and_false]
    refine iff_of_false (by simp) fun listed => ?_
    exact (gone listed.1).1 listed.2
  · intro entry _
    simp [Stream.note, List.countP_append, (gone entry).2]
  · simp only [Stream.note, List.countP_append, List.countP_singleton]
    split
    · rename_i close
      exact Nat.le_of_eq (congrArg (· + 1) (countP_of_isOpen (fits close)))
    · exact sound.once

theorem StreamsSound.nodup_streams (sound : StreamsSound broker) {conn : Conn}
    (found : broker.connections[number]? = some conn) : conn.streams.values.Nodup := by
  apply OrderedMap.nodup_values fun stream => broker.streams[stream]?.map Stream.id
  intro id stream entry
  rcases sound.entries number id stream (by rw [entryOf_eq Conn.streams found, entry])
    with ⟨held, atNumber, _, identifier⟩
  simp [atNumber, identifier]

theorem StreamsSound.congr (sound : StreamsSound broker)
    (conns : next.conns = broker.conns) (streams : next.streams = broker.streams)
    (hubs : ∀ connection, next.hubOf connection = broker.hubOf connection)
    (entries : ∀ connection id,
      next.entryOf Conn.streams connection id = broker.entryOf Conn.streams connection id) :
    StreamsSound next := by
  constructor
  · intro hub connection current
    rw [conns] at current
    rw [hubs]
    exact sound.current hub connection current
  · intro connection id number entry
    rw [entries] at entry
    rw [streams]
    exact sound.entries connection id number entry
  · rw [streams]
    exact sound.distinct
  · intro number stream found
    rw [streams] at found
    have held := sound.streams number stream found
    exact held.transfer (by rw [hubs]; exact held.placed) (by rw [entries]) (by rw [conns])

theorem StreamsSound.endAll (sound : StreamsSound broker) (event : StreamEvent)
    (ending : List Nat) (nodup : ending.Nodup) (onClose : event.isOnClose = true)
    (here : ∀ hub, event.IsFrom hub)
    (streams : next.streams = Cells.modifyAll (Stream.note event) ending broker.streams)
    (isOpen : ∀ number ∈ ending, ∀ stream : Stream, broker.streams[number]? = some stream →
      stream.isOpen = true)
    (hubs : ∀ connection hub, broker.hubOf connection = some hub → next.hubOf connection = some hub)
    (current : HubsPlaced next)
    (entries : ∀ connection id number, next.entryOf Conn.streams connection id = some number →
      broker.entryOf Conn.streams connection id = some number)
    (gone : ∀ number ∈ ending, ∀ stream : Stream, broker.streams[number]? = some stream →
      next.conns.get stream.hub ≠ some stream.connection)
    (left : ∀ (number : Nat) (stream : Stream), broker.streams[number]? = some stream →
      number ∉ ending → broker.entryOf Conn.streams stream.connection stream.id = some number →
      next.entryOf Conn.streams stream.connection stream.id = some number ∧
        (next.conns.get stream.hub = some stream.connection ↔
          broker.conns.get stream.hub = some stream.connection)) :
    StreamsSound next := by
  have noData : event.isData = false := by
    cases event <;> simp_all [StreamEvent.isOnClose, StreamEvent.isData]
  have earlier : ∀ (number : Nat) (after : Stream), next.streams[number]? = some after →
      ∃ stream : Stream, broker.streams[number]? = some stream ∧
        after.connection = stream.connection ∧ after.id = stream.id ∧
        (number ∈ ending ∧ after = stream.note event ∨ number ∉ ending ∧ after = stream) := by
    intro number after found
    rw [streams, Cells.getElem?_modifyAll _ nodup] at found
    split at found
    · rename_i member
      rcases Option.map_eq_some_iff.mp found with ⟨stream, before, rfl⟩
      exact ⟨stream, before, rfl, rfl, .inl ⟨member, rfl⟩⟩
    · rename_i outside
      exact ⟨after, found, rfl, rfl, .inr ⟨outside, rfl⟩⟩
  constructor
  · exact current
  · intro connection id number entry
    rcases sound.entries connection id number (entries connection id number entry)
      with ⟨stream, found, there, identifier⟩
    rw [streams, Cells.getElem?_modifyAll _ nodup, found]
    split
    · exact ⟨_, rfl, there, identifier⟩
    · exact ⟨stream, rfl, there, identifier⟩
  · intro first second one other atFirst atSecond sameConnection sameId
    rcases earlier first one atFirst with ⟨before, found, connection, id, _⟩
    rcases earlier second other atSecond with ⟨prior, foundOther, otherConnection, otherId, _⟩
    exact sound.distinct first second before prior found foundOther
      (by rw [← connection, ← otherConnection, sameConnection])
      (by rw [← id, ← otherId, sameId])
  · intro number after atNumber
    rcases earlier number after atNumber with ⟨stream, found, _, _, ended | same⟩
    · rcases ended with ⟨member, rfl⟩
      have held := sound.streams number stream found
      exact held.ends noData (here _) (fun _ => isOpen number member stream found)
        (hubs _ _ held.placed) fun _ => ⟨gone number member stream found, onClose⟩
    · rcases same with ⟨outside, rfl⟩
      have held := sound.streams number after found
      refine ⟨hubs _ _ held.placed, ?_, ?_, held.once, held.silent, held.own⟩
      · rw [held.listed]
        constructor
        · rintro ⟨entry, active⟩
          have remains := left number after found outside entry
          exact ⟨remains.1, remains.2.mpr active⟩
        · rintro ⟨entry, active⟩
          have before := entries _ _ _ entry
          exact ⟨before, (left number after found outside before).2.mp active⟩
      · intro entry inactive
        have before := entries _ _ _ entry
        rw [Ne, (left number after found outside before).2] at inactive
        exact held.superseded before inactive

theorem StreamsSound.endOne (sound : StreamsSound broker) (event : StreamEvent)
    (found : broker.streams[number]? = some stream)
    (ending : event.isData = false) (here : event.IsFrom stream.hub)
    (fits : event.isOnClose = true → stream.isOpen = true) (conns : next.conns = broker.conns)
    (streams : next.streams = broker.streams.modify number (Stream.note event))
    (hubs : ∀ connection, next.hubOf connection = broker.hubOf connection)
    (entries : ∀ connection id, next.entryOf Conn.streams connection id =
      if connection = stream.connection ∧ id = stream.id then none
      else broker.entryOf Conn.streams connection id) :
    StreamsSound next := by
  have earlier : ∀ (other : Nat) (after : Stream), next.streams[other]? = some after →
      ∃ before : Stream, broker.streams[other]? = some before ∧
        after.connection = before.connection ∧ after.id = before.id ∧
        (number = other ∧ after = before.note event ∨ number ≠ other ∧ after = before) := by
    intro other after atOther
    rw [streams, Cells.getElem?_modify] at atOther
    split at atOther
    · rename_i same
      rcases Option.map_eq_some_iff.mp atOther with ⟨before, prior, rfl⟩
      exact ⟨before, prior, rfl, rfl, .inl ⟨same, rfl⟩⟩
    · rename_i differs
      exact ⟨after, atOther, rfl, rfl, .inr ⟨differs, rfl⟩⟩
  constructor
  · intro hub connection active
    rw [conns] at active
    rw [hubs]
    exact sound.current hub connection active
  · intro connection id other entry
    rw [entries] at entry
    split at entry
    · cases entry
    · rcases sound.entries connection id other entry with ⟨held, atOther, there, identifier⟩
      rw [streams, Cells.getElem?_modify, atOther]
      split
      · exact ⟨_, rfl, there, identifier⟩
      · exact ⟨held, rfl, there, identifier⟩
  · intro first second one other atFirst atSecond sameConnection sameId
    rcases earlier first one atFirst with ⟨before, prior, connection, id, _⟩
    rcases earlier second other atSecond with ⟨origin, priorOther, otherConnection, otherId, _⟩
    exact sound.distinct first second before origin prior priorOther
      (by rw [← connection, ← otherConnection, sameConnection])
      (by rw [← id, ← otherId, sameId])
  · intro other after atOther
    rcases earlier other after atOther with ⟨before, prior, _, _, ended | same⟩
    · rcases ended with ⟨rfl, rfl⟩
      rw [found, Option.some.injEq] at prior
      subst prior
      have held := sound.streams number stream found
      refine held.ends ending here fits (by rw [hubs]; exact held.placed) fun entry => ?_
      rw [entries, if_pos ⟨rfl, rfl⟩] at entry
      cases entry
    · rcases same with ⟨differs, rfl⟩
      have held := sound.streams other after prior
      refine held.transfer (by rw [hubs]; exact held.placed) ?_ (by rw [conns])
      rw [entries, if_neg]
      rintro ⟨sameConnection, sameId⟩
      exact differs (sound.distinct number other stream after found prior
        sameConnection.symm sameId.symm)

end Preservation

/-! ## Every operation keeps the invariant -/

section Operations

variable {broker : Broker}

def streamsOn (broker : Broker) (hub : HubId) : List Nat :=
  ((broker.current hub).map fun found => found.2.streams.values).getD []

def supersededEvent : StreamEvent :=
  .onClose .superseded (some goingAway) (some (.text "superseded by new connection"))

def detachedEvent : StreamEvent :=
  .onClose .detached (some internalError) (some (.text "tunnel closed"))

theorem streams_attach (hub : HubId) (devicePublicKey : String) (broker : Broker) :
    (broker.attach hub devicePublicKey).streams =
      Cells.modifyAll (Stream.note supersededEvent) (streamsOn broker hub) broker.streams := by
  simp only [attach, supersede, streamsOn]
  cases broker.current hub <;> rfl

variable {number : Nat} {conn : Conn}

theorem StreamsSound.of_mem_values (sound : StreamsSound broker) {connection : Nat}
    {stream : Stream} (found : broker.connections[connection]? = some conn)
    (listed : number ∈ conn.streams.values) (there : broker.streams[number]? = some stream) :
    broker.entryOf Conn.streams stream.connection stream.id = some number ∧
      stream.connection = connection ∧ stream.hub = conn.hub := by
  rcases OrderedMap.mem_values_iff.mp listed with ⟨id, entry⟩
  rw [← entryOf_eq Conn.streams found] at entry
  rcases sound.entries connection id number entry with ⟨held, atNumber, rfl, rfl⟩
  rw [there, Option.some.injEq] at atNumber
  subst atNumber
  have placed := (sound.streams number stream there).placed
  rw [hubOf_eq found, Option.some.injEq] at placed
  exact ⟨entry, rfl, placed.symm⟩

theorem mem_values_of_entryOf {connection : Nat} {id : String}
    (found : broker.connections[connection]? = some conn)
    (entry : broker.entryOf Conn.streams connection id = some number) :
    number ∈ conn.streams.values := by
  rw [entryOf_eq Conn.streams found] at entry
  exact OrderedMap.mem_values_iff.mpr ⟨id, entry⟩

theorem StreamsSound.attach (sound : StreamsSound broker) (hub : HubId)
    (devicePublicKey : String) : StreamsSound (broker.attach hub devicePublicKey) := by
  have onConnection : ∀ number ∈ streamsOn broker hub, ∀ stream : Stream,
      broker.streams[number]? = some stream →
      broker.entryOf Conn.streams stream.connection stream.id = some number ∧
        stream.hub = hub ∧ broker.conns.get hub = some stream.connection := by
    intro number member stream there
    unfold streamsOn at member
    cases here : broker.current hub with
    | none => simp [here] at member
    | some prev =>
      rcases prev with ⟨connection, conn⟩
      rcases current_eq_some_iff.mp here with ⟨current, found⟩
      simp only [here, Option.map_some, Option.getD_some] at member
      rcases sound.of_mem_values found member there with ⟨entry, rfl, same⟩
      have hubs := sound.current hub _ current
      rw [hubOf_eq found, Option.some.injEq] at hubs
      exact ⟨entry, same.trans hubs, current⟩
  have noLonger : ∀ stream : Stream, broker.hubOf stream.connection = some stream.hub →
      stream.hub = hub →
      (broker.attach hub devicePublicKey).conns.get stream.hub ≠ some stream.connection := by
    intro stream placed same
    rw [conns_attach, if_pos same]
    intro equal
    exact ne_length_of_hubOf placed (Option.some.inj equal).symm
  apply sound.endAll supersededEvent (streamsOn broker hub)
  · unfold streamsOn
    cases found : broker.current hub with
    | none => exact List.nodup_nil
    | some prev => exact sound.nodup_streams (current_eq_some_iff.mp found).2
  · rfl
  · exact fun _ => trivial
  · exact streams_attach hub devicePublicKey broker
  · intro number member stream there
    rcases onConnection number member stream there with ⟨entry, rfl, current⟩
    exact (sound.streams number stream there).listed.mpr ⟨entry, current⟩
  · intro connection other found
    rw [hubOf_attach, if_neg (ne_length_of_hubOf found)]
    exact found
  · exact sound.current.attach hub devicePublicKey
  · intro connection id number entry
    rwa [entryOf_attach hub devicePublicKey broker rfl] at entry
  · intro number member stream there
    exact noLonger stream (sound.streams number stream there).placed
      (onConnection number member stream there).2.1
  · intro number stream there outside entry
    rw [entryOf_attach hub devicePublicKey broker rfl]
    refine ⟨entry, ?_⟩
    have placed := (sound.streams number stream there).placed
    by_cases same : stream.hub = hub
    · refine iff_of_false (noLonger stream placed same) fun current => outside ?_
      simp only [hubOf, Option.map_eq_some_iff] at placed
      rcases placed with ⟨conn, found, _⟩
      rw [same] at current
      simp only [streamsOn, current_eq_some_iff.mpr ⟨current, found⟩, Option.map_some,
        Option.getD_some]
      exact mem_values_of_entryOf found entry
    · rw [conns_attach, if_neg same]

theorem StreamsSound.detach (sound : StreamsSound broker)
    (found : broker.connections[number]? = some conn) (calm : CalmDetach broker (.detach number)) :
    StreamsSound (broker.detach number conn) := by
  have calm := calm conn (by simp [found])
  have onConnection : ∀ listed ∈ conn.streams.values, ∀ stream : Stream,
      broker.streams[listed]? = some stream →
      broker.entryOf Conn.streams stream.connection stream.id = some listed ∧
        broker.conns.get stream.hub = some stream.connection ∧ stream.hub = conn.hub := by
    intro listed member stream there
    rcases sound.of_mem_values found member there with ⟨entry, rfl, same⟩
    rcases calm with current | none
    · exact ⟨entry, by rw [same]; exact current, same⟩
    · simp [none] at member
  apply sound.endAll detachedEvent conn.streams.values (sound.nodup_streams found) rfl
    (fun _ => trivial) (streams_detach number conn broker)
  · intro listed member stream there
    rcases onConnection listed member stream there with ⟨entry, current, _⟩
    exact (sound.streams listed stream there).listed.mpr ⟨entry, current⟩
  · intro connection hub placed
    rw [hubOf_detach]
    exact placed
  · exact sound.current.detach number conn
  · intro connection id listed entry
    rw [streamOf_detach] at entry
    split at entry
    · cases entry
    · exact entry
  · intro listed member stream there
    rcases onConnection listed member stream there with ⟨_, current, same⟩
    rcases sound.of_mem_values found member there with ⟨_, place, _⟩
    rw [same, place] at current
    rw [conns_detach, if_pos current, OrderedMap.get_delete, if_pos same]
    simp
  · intro listed stream there outside entry
    have elsewhere : stream.connection ≠ number := by
      rintro rfl
      exact outside (mem_values_of_entryOf found entry)
    rw [streamOf_detach, if_neg elsewhere]
    refine ⟨entry, ?_⟩
    rw [conns_detach]
    split
    · rename_i current
      rw [OrderedMap.get_delete]
      split
      · rename_i same
        rw [same, current, Option.some.injEq]
        exact iff_of_false (by simp) (Ne.symm elsewhere)
      · rfl
    · rfl

theorem StreamsSound.closeStream (sound : StreamsSound broker) {stream : Stream}
    (found : broker.streams[number]? = some stream) :
    StreamsSound (broker.closeStream number stream) := by
  apply sound.endOne .close found rfl trivial (by simp [StreamEvent.isOnClose])
  · rfl
  · rfl
  · exact hubOf_changeConn fun conn => by split <;> rfl
  · refine entryOf_changeConn_of_delete fun conn query => ?_
    split
    · exact OrderedMap.get_delete _ _ _
    · rename_i absent
      simp only [OrderedMap.has, Bool.not_eq_true, Option.isSome_eq_false_iff,
        Option.isNone_iff_eq_none] at absent
      split
      · rename_i same
        rw [same]
        exact absent
      · rfl

section Frames

variable {hub : HubId} {connection number : Nat} {conn : Conn} {id : String}

theorem StreamsSound.reached (sound : StreamsSound broker)
    (here : broker.current hub = some (connection, conn))
    (entry : conn.streams.get id = some number) :
    ∃ stream : Stream, broker.streams[number]? = some stream ∧ stream.connection = connection ∧
      stream.id = id ∧ stream.hub = hub ∧ stream.isOpen = true := by
  rcases current_eq_some_iff.mp here with ⟨current, found⟩
  rw [← entryOf_eq Conn.streams found] at entry
  rcases sound.entries connection id number entry with ⟨stream, there, rfl, rfl⟩
  have held := sound.streams number stream there
  have same := held.placed
  rw [sound.current hub _ current, Option.some.injEq] at same
  exact ⟨stream, there, rfl, rfl, same.symm, held.listed.mpr ⟨entry, same ▸ current⟩⟩

theorem StreamsSound.handleStreamClose (sound : StreamsSound broker)
    (here : broker.current hub = some (connection, conn)) (frame : Json) :
    StreamsSound (broker.handleStreamClose hub connection conn id frame) := by
  unfold Broker.handleStreamClose
  split
  · exact sound
  · rename_i number entry
    rcases sound.reached here entry with ⟨stream, there, rfl, rfl, same, isOpen⟩
    apply sound.endOne (.onClose (.frame hub) (frame.member "code") (frame.member "reason"))
      there rfl same.symm fun _ => isOpen
    · rfl
    · rfl
    · exact hubOf_changeConn fun _ => rfl
    · exact entryOf_changeConn_of_delete fun _ => OrderedMap.get_delete _ _

theorem StreamsSound.handleStreamData (sound : StreamsSound broker)
    (here : broker.current hub = some (connection, conn)) (frame : Json) :
    StreamsSound (broker.handleStreamData hub conn id frame) := by
  unfold Broker.handleStreamData
  split
  · exact sound
  · rename_i number entry
    rcases sound.reached here entry with ⟨stream, there, _, _, same, isOpen⟩
    generalize event : StreamEvent.onData hub (memberOr frame "data" (.text "")) = data
    have earlier : ∀ (other : Nat) (after : Stream),
        (broker.streams.modify number (Stream.note data))[other]? = some after →
        ∃ before : Stream, broker.streams[other]? = some before ∧
          after.connection = before.connection ∧ after.id = before.id ∧
          (number = other ∧ after = before.note data ∨ after = before) := by
      intro other after atOther
      rw [Cells.getElem?_modify] at atOther
      split at atOther
      · rename_i equal
        rcases Option.map_eq_some_iff.mp atOther with ⟨before, prior, rfl⟩
        exact ⟨before, prior, rfl, rfl, .inl ⟨equal, rfl⟩⟩
      · exact ⟨after, atOther, rfl, rfl, .inr rfl⟩
    constructor
    · exact sound.current
    · intro other query listed found
      rcases sound.entries other query listed found with ⟨held, atListed, place, identifier⟩
      simp only [changeStream, Cells.getElem?_modify, atListed]
      split
      · exact ⟨_, rfl, place, identifier⟩
      · exact ⟨held, rfl, place, identifier⟩
    · intro first second one other atFirst atSecond sameConnection sameId
      rcases earlier first one atFirst with ⟨before, prior, place, identifier, _⟩
      rcases earlier second other atSecond with ⟨origin, priorOther, otherPlace, otherId, _⟩
      exact sound.distinct first second before origin prior priorOther
        (by rw [← place, ← otherPlace, sameConnection])
        (by rw [← identifier, ← otherId, sameId])
    · intro other after atOther
      rcases earlier other after atOther with ⟨before, prior, _, _, received | rfl⟩
      · rcases received with ⟨rfl, rfl⟩
        rw [there, Option.some.injEq] at prior
        subst prior
        have held := sound.streams number stream there
        have isData : data.isData = true := by
          rw [← event]
          rfl
        have noClose : data.isOnClose = false := by
          rw [← event]
          rfl
        have fromHub : data.IsFrom stream.hub := by
          rw [← event]
          exact same.symm
        refine ⟨held.placed, ?_, ?_, ?_, silent_note held.silent fun _ => isOpen,
          own_note held.own fromHub⟩
        · rw [isOpen_note, isData, Bool.and_true]
          exact held.listed
        · intro listed inactive
          have some := held.superseded listed inactive
          simp only [Stream.note, List.countP_append]
          omega
        · simpa [Stream.note, List.countP_append, noClose] using held.once
      · have held := sound.streams other after prior
        exact ⟨held.placed, held.listed, held.superseded, held.once, held.silent, held.own⟩

end Frames

theorem StreamsSound.handleMessage (sound : StreamsSound broker) (hub : HubId)
    (parsed : Option Json) : StreamsSound (broker.handleMessage hub parsed) := by
  unfold Broker.handleMessage
  split
  · rename_i connection conn frame here
    split
    · unfold Broker.handleResponse
      split
      · exact sound
      · apply sound.congr
        · rfl
        · rfl
        · exact hubOf_changeConn fun _ => rfl
        · exact entryOf_changeConn_of_kept fun _ => rfl
    · exact sound.handleStreamData here frame
    · exact sound.handleStreamClose here frame
    · exact sound
  · exact sound

section OpenStream

variable {hub : HubId} {connection : Nat} {conn : Conn}

section

variable (here : broker.current hub = some (connection, conn))

include here

theorem streams_openStream (path : String) (now : Nat) :
    (broker.openStream hub path now).streams =
      broker.streams ++ [⟨hub, connection, streamId now broker.counter, []⟩] := by
  simp [Broker.openStream, here, changeConn]

theorem conns_openStream (path : String) (now : Nat) :
    (broker.openStream hub path now).conns = broker.conns := by
  simp [Broker.openStream, here, changeConn]

theorem hubOf_openStream (path : String) (now other : Nat) :
    (broker.openStream hub path now).hubOf other = broker.hubOf other := by
  simp only [Broker.openStream, here]
  rw [hubOf_changeConn]
  · rfl
  · exact fun _ => rfl

theorem streamOf_openStream (path : String) (now other : Nat) (id : String) :
    (broker.openStream hub path now).entryOf Conn.streams other id =
      if other = connection ∧ id = streamId now broker.counter then
        some broker.streams.length
      else broker.entryOf Conn.streams other id := by
  simp only [Broker.openStream, here]
  rw [entryOf_changeConn_of_set]
  · rfl
  · exact (current_eq_some_iff.mp here).2
  · exact fun _ => rfl

end

end OpenStream

theorem StreamsSound.openStream (sound : StreamsSound broker) (hub : HubId) (path : String)
    (now : Nat) (fresh : FreshStream broker (.openStream hub path now)) :
    StreamsSound (broker.openStream hub path now) := by
  cases here : broker.current hub with
  | none =>
    simp only [Broker.openStream, here]
    exact sound
  | some place =>
    rcases place with ⟨connection, conn⟩
    rcases current_eq_some_iff.mp here with ⟨current, _⟩
    have different : ∀ (number : Nat) (stream : Stream), broker.streams[number]? = some stream →
        stream.connection = connection → stream.id ≠ streamId now broker.counter := by
      intro number stream found same
      exact fresh stream (List.mem_of_getElem? found) (same ▸ current)
    constructor
    · intro other number active
      rw [conns_openStream here] at active
      rw [hubOf_openStream here]
      exact sound.current other number active
    · intro other id number entry
      rw [streamOf_openStream here] at entry
      rw [streams_openStream here, Cells.getElem?_concat]
      split at entry
      · rename_i new
        rw [Option.some.injEq] at entry
        subst entry
        exact ⟨_, if_pos rfl, new.1.symm, new.2.symm⟩
      · rcases sound.entries other id number entry with ⟨held, atNumber, there⟩
        rw [if_neg (Nat.ne_of_lt (Cells.lt_of_getElem? atNumber))]
        exact ⟨held, atNumber, there⟩
    · intro first second one other atFirst atSecond sameConnection sameId
      rw [streams_openStream here, Cells.getElem?_concat] at atFirst atSecond
      split at atFirst <;> split at atSecond
      · rename_i last also
        rw [last, also]
      · rw [Option.some.injEq] at atFirst
        subst atFirst
        exact (different second other atSecond sameConnection.symm sameId.symm).elim
      · rw [Option.some.injEq] at atSecond
        subst atSecond
        exact (different first one atFirst sameConnection sameId).elim
      · exact sound.distinct first second one other atFirst atSecond sameConnection sameId
    · intro number after atNumber
      rw [streams_openStream here, Cells.getElem?_concat] at atNumber
      split at atNumber
      · rename_i last
        rw [Option.some.injEq] at atNumber
        subst atNumber
        have active : (broker.openStream hub path now).conns.get hub = some connection := by
          rw [conns_openStream here]
          exact current
        refine ⟨?_, ?_, fun _ inactive => (inactive active).elim, by simp, by simp, by simp⟩
        · rw [hubOf_openStream here]
          exact sound.current hub connection current
        · rw [streamOf_openStream here, if_pos ⟨rfl, rfl⟩, last]
          exact iff_of_true rfl ⟨rfl, active⟩
      · have held := sound.streams number after atNumber
        refine held.transfer (by rw [hubOf_openStream here]; exact held.placed) ?_
          (by rw [conns_openStream here])
        rw [streamOf_openStream here, if_neg]
        rintro ⟨same, sameId⟩
        exact different number after atNumber same sameId

theorem StreamsSound.forward (sound : StreamsSound broker) (hub : HubId)
    (request : TunnelRequest) (now : Nat) : StreamsSound (broker.forward hub request now) := by
  unfold Broker.forward
  split
  · exact sound
  · apply sound.congr
    · rfl
    · rfl
    · exact hubOf_changeConn fun _ => rfl
    · exact entryOf_changeConn_of_kept fun _ => rfl

theorem streamsSound_step {next : Broker} {label : Label} (sound : StreamsSound broker)
    (fresh : FreshStream broker label) (calm : CalmDetach broker label)
    (taken : step broker label = some next) : StreamsSound next := by
  cases label with
  | attach hub devicePublicKey =>
    cases taken
    exact sound.attach hub devicePublicKey
  | detach number =>
    rcases Option.map_eq_some_iff.mp taken with ⟨conn, found, rfl⟩
    exact sound.detach found calm
  | forward hub request now =>
    cases taken
    exact sound.forward hub request now
  | timeout number =>
    simp only [step] at taken
    split at taken
    · split at taken
      · cases taken
        apply sound.congr
        · rfl
        · rfl
        · exact hubOf_changeConn fun _ => rfl
        · exact entryOf_changeConn_of_kept fun _ => rfl
      · cases taken
    · cases taken
  | openStream hub path now =>
    cases taken
    exact sound.openStream hub path now fresh
  | sendStream number data =>
    rcases Option.map_eq_some_iff.mp taken with ⟨stream, _, rfl⟩
    apply sound.congr
    · rfl
    · rfl
    · exact hubOf_changeConn fun _ => rfl
    · exact entryOf_changeConn_of_kept fun _ => rfl
  | closeStream number =>
    rcases Option.map_eq_some_iff.mp taken with ⟨stream, found, rfl⟩
    exact sound.closeStream found
  | handleMessage hub parsed =>
    cases taken
    exact sound.handleMessage hub parsed

end Operations

theorem streamsSound_initial (counter : Nat) : StreamsSound (initial counter) := by
  constructor
  · intro hub number found
    simp [initial] at found
  · intro connection id number found
    simp [initial, entryOf] at found
  · intro first second one other found
    simp [initial] at found
  · intro number stream found
    simp [initial] at found

section Exactness

variable {broker next : Broker}

theorem StreamsSound.endOnce (sound : StreamsSound broker) : StreamsEndOnce broker := by
  intro number stream found
  have held := sound.streams number stream found
  refine ⟨held.once, held.silent, ?_, held.own⟩
  intro gone
  have ended : ¬ stream.isOpen = true := fun isOpen => gone (held.listed.mp isOpen).2
  simpa [Stream.isOpen] using ended

/-- A superseded connection ends the streams that it still lists once more. -/
theorem StreamsSound.calm_of_endOnce (sound : StreamsSound broker) {label : Label}
    (taken : step broker label = some next) (good : StreamsEndOnce next) :
    CalmDetach broker label := by
  cases label with
  | detach number =>
    intro conn found
    rw [Option.mem_def] at found
    simp only [step, found, Option.map_some, Option.some.injEq] at taken
    subst taken
    by_contra unruly
    rw [not_or] at unruly
    rcases List.exists_mem_of_ne_nil _ unruly.2 with ⟨listed, member⟩
    rcases OrderedMap.mem_values_iff.mp member with ⟨id, entry⟩
    rw [← entryOf_eq Conn.streams found] at entry
    rcases sound.entries number id listed entry with ⟨stream, there, _, _⟩
    rcases sound.of_mem_values found member there with ⟨own, rfl, same⟩
    have before := (sound.streams listed stream there).superseded own
      (by rw [same]; exact unruly.1)
    have after : (broker.detach stream.connection conn).streams[listed]? =
        some (stream.note detachedEvent) := by
      rw [streams_detach, Cells.getElem?_modifyAll _ (sound.nodup_streams found),
        if_pos member, there]
      rfl
    have once := (good listed _ after).once
    simp only [Stream.note, List.countP_append] at once
    have last : [detachedEvent].countP StreamEvent.isOnClose = 1 := rfl
    omega
  | attach hub devicePublicKey => trivial
  | forward hub request now => trivial
  | timeout number => trivial
  | openStream hub path now => trivial
  | sendStream number data => trivial
  | closeStream number => trivial
  | handleMessage hub parsed => trivial

end Exactness

/--
In a run in which the streams of a connection have different identifiers, the
streams end as they should exactly if no superseded connection is detached that
still lists a stream.
-/
theorem streams_end_once_iff (counter : Nat) (labels : List Label)
    (fresh : brokerMachine.Guarded FreshStream (initial counter) labels) :
    brokerMachine.Throughout StreamsEndOnce (initial counter) labels ↔
      brokerMachine.Guarded CalmDetach (initial counter) labels := by
  apply Machine.throughout_iff_guarded_of_assumed StreamsSound FreshStream
  · intro broker label next sound _ fresh taken
    constructor
    · exact sound.calm_of_endOnce taken
    · exact fun calm => (streamsSound_step sound fresh calm taken).endOnce
  · exact fun broker label next sound _ fresh calm taken =>
      streamsSound_step sound fresh calm taken
  · exact streamsSound_initial counter
  · exact (streamsSound_initial counter).endOnce
  · exact fresh

/-- A client closes its stream between the new connection and the end of the old one. -/
theorem closed_stream_ends_once : brokerMachine.Throughout StreamsEndOnce (initial 0)
        [.attach "hub" "key", .openStream "hub" "/v1/stream" 0, .attach "hub" "key",
          .openStream "hub" "/v1/stream" 0, .closeStream 0, .detach 0] ↔
      brokerMachine.Guarded CalmDetach (initial 0)
        [.attach "hub" "key", .openStream "hub" "/v1/stream" 0, .attach "hub" "key",
          .openStream "hub" "/v1/stream" 0, .closeStream 0, .detach 0] :=
  streams_end_once_iff 0 _ (by decide +kernel)

/-- The stream of a superseded connection is ended again when the old socket closes. -/
theorem superseded_stream_ends_twice : ¬ brokerMachine.Throughout StreamsEndOnce (initial 0)
      [.attach "hub" "key", .openStream "hub" "/v1/stream" 0, .attach "hub" "key",
        .detach 0] := by
  intro throughout
  have once := (Machine.property_of_throughout throughout rfl 0 _ rfl).once
  revert once
  decide

end SupremeOs.TunnelBroker
