import SupremeOs.Gateway.Stream

/-!
# Connections neither leak nor lose frames

When nothing is in flight, a socket that has closed should have no subscriber
left, and every frame that came in on an authenticated one should have been
handled, once and in its turn.

Messages and the closing are listened to only when two awaits have settled.
What comes before is lost: then frames are never handled, and the subscribers
of a socket that has closed by then are never unregistered.
-/

namespace SupremeOs.Gateway

open Support Messaging

/-- The handling of the connection has come to where it listens, or to its end. -/
def ConnectionPhase.Settled : ConnectionPhase → Prop
  | .authenticating | .gettingHome _ => False
  | .unauthorized | .abandoned _ | .attached _ _ => True

instance : ∀ phase : ConnectionPhase, Decidable phase.Settled
  | .authenticating | .gettingHome _ => isFalse not_false
  | .unauthorized | .abandoned _ | .attached _ _ => isTrue trivial

def Quiet (config : Config Stream StreamCall) : Prop :=
  config.pending = [] ∧ ∀ connection ∈ config.shared.connections, connection.phase.Settled

instance (config : Config Stream StreamCall) : Decidable (Quiet config) :=
  inferInstanceAs (Decidable (_ ∧ _))

def Stream.Registered (stream : Stream) (id : Nat) : Prop :=
  stream.stateSubs.has id = true ∨ stream.sceneRunSubs.has id = true ∨
    stream.notifySubs.has id = true ∨ stream.driverStateSubs.has id = true

structure ConnectionsTidy (config : Config Stream StreamCall) : Prop where
  unregistered : Quiet config → ∀ (id : Nat) (connection : Connection),
    config.shared.connections[id]? = some connection → connection.isOpen = false →
    ¬config.shared.Registered id
  /-- Every frame is handled once, in the order of arrival. -/
  handled : Quiet config → ∀ (id : Nat) (connection : Connection) (user : String),
    config.shared.connections[id]? = some connection → connection.phase.user = some user →
    connection.handled = connection.received
  /-- The rooms are those that the frames have left subscribed to. -/
  rooms : Quiet config → ∀ (id : Nat) (connection : Connection) (user : String),
    config.shared.connections[id]? = some connection → connection.phase.user = some user →
    connection.subscribedRooms =
      connection.received.foldl Connection.subscribeRooms OrderedMap.empty

/-- Nothing has come in and the socket is open when it starts to be listened to. -/
def Connection.attachesInTime (connection : Connection) : StreamReply → Prop
  | .home _ => connection.isOpen = true ∧ connection.received = []
  | .rejected _ => connection.received = []
  | .user _ | .room _ | .verdict _ | .done => True

instance (connection : Connection) : ∀ reply, Decidable (connection.attachesInTime reply) := by
  intro reply
  unfold Connection.attachesInTime
  split <;> infer_instance

def ConnectionPhase.isGettingHome : ConnectionPhase → Bool
  | .gettingHome _ => true
  | .authenticating | .unauthorized | .abandoned _ | .attached _ _ => false

def ConnectionPhase.isAbandoned : ConnectionPhase → Bool
  | .abandoned _ => true
  | .authenticating | .unauthorized | .gettingHome _ | .attached _ _ => false

/--
A connection is attached while its socket is open and before any frame has come
in, and no frame comes in when the home could not be read.
-/
def listensInTime (config : Config Stream StreamCall) : Schedule StreamRequest StreamReply → Prop
  | .call (.settle id reply) =>
    ∀ connection ∈ config.shared.connections[id]?,
      connection.phase.isGettingHome = true → connection.attachesInTime reply
  | .call (.frame id _) =>
    ∀ connection ∈ config.shared.connections[id]?,
      connection.isOpen = true → connection.phase.isAbandoned = false
  | .call _ | .resume _ _ => True

instance (config : Config Stream StreamCall) : ∀ label, Decidable (listensInTime config label) := by
  intro label
  unfold listensInTime
  split <;> infer_instance

/-- What decides who listens and what has been heard. -/
structure Control where
  phase : ConnectionPhase
  isOpen : Bool
  subscribedRooms : OrderedSet String
  received : List (Option ClientFrame)
  handled : List (Option ClientFrame)

def Connection.control (connection : Connection) : Control where
  phase := connection.phase
  isOpen := connection.isOpen
  subscribedRooms := connection.subscribedRooms
  received := connection.received
  handled := connection.handled

def Stream.control (stream : Stream) (id : Nat) : Option Control :=
  stream.connections[id]?.map Connection.control

/-- Everything but what is sent and drawn stays as it is. -/
structure SameControl (stream next : Stream) : Prop where
  homeId : next.homeId = stream.homeId
  now : next.now = stream.now
  presence : next.presence = stream.presence
  registered : ∀ id, next.Registered id ↔ stream.Registered id
  control : ∀ id, next.control id = stream.control id

section Steps

variable {stream next : Stream} {id other : Nat}

theorem SameControl.refl (stream : Stream) : SameControl stream stream :=
  ⟨rfl, rfl, rfl, fun _ => Iff.rfl, fun _ => rfl⟩

theorem SameControl.trans {last : Stream} (first : SameControl stream next)
    (second : SameControl next last) : SameControl stream last :=
  ⟨second.homeId.trans first.homeId, second.now.trans first.now,
    second.presence.trans first.presence,
    fun id => (second.registered id).trans (first.registered id),
    fun id => (second.control id).trans (first.control id)⟩

theorem control_update (change : Connection → Connection) :
    (stream.update id change).control other =
      if id = other then (stream.connections[other]?.map change).map Connection.control
      else stream.control other := by
  simp only [Stream.control, Stream.update, List.getElem?_modify]
  split <;> simp

variable {connection : Connection} {change : Connection → Connection}

theorem sameControl_update
    (keeps : ∀ connection, (change connection).control = connection.control) :
    SameControl stream (stream.update id change) := by
  refine ⟨rfl, rfl, rfl, fun _ => Iff.rfl, ?_⟩
  intro other
  rw [control_update]
  split
  · rw [Option.map_map, Stream.control]
    congr 1
    exact funext keeps
  · rfl

@[simp]
theorem control_send (frame : ServerFrame) (connection : Connection) :
    (connection.send frame).control = connection.control := by
  rw [Connection.send]
  split <;> rfl

theorem sameControl_notify (stream : Stream) (notification : Notification) :
    SameControl stream (stream.notify notification) := by
  rw [Stream.notify]
  refine List.foldlRecOn _ _ (SameControl.refl stream) fun next same id _ => ?_
  refine same.trans (sameControl_update fun connection => ?_)
  split
  · exact control_send _ connection
  · rfl

theorem sameControl_resume {call : StreamCall} {reply : StreamReply} {more : List StreamCall}
    (resumed : stream.resume call reply = some (next, more)) : SameControl stream next := by
  have sends : ∀ id frame, SameControl stream (stream.update id (Connection.send frame)) :=
    fun id frame => sameControl_update (control_send frame)
  cases resumed_of_resume resumed with
  | draws id number event roomId connection found => exact sameControl_update fun _ => rfl
  | sends id number event roomId homeId seq => exact sends id _
  | loses id number event roomId seq message => exact SameControl.refl _
  | other only =>
    rcases only.next with same | ⟨id, frame, _, same⟩
    · rw [same]
      exact SameControl.refl _
    · rw [same]
      exact sends id frame

/-- What is known of a connection, whatever is in flight. -/
structure Control.Sound (control : Control) : Prop where
  attached : ∀ user homeId, control.phase = .attached user homeId →
    control.handled = control.received
  abandoned : ∀ user, control.phase = .abandoned user → control.received = []
  unheard : (∀ user homeId, control.phase ≠ .attached user homeId) → control.handled = []
  rooms : control.subscribedRooms = control.handled.foldl Connection.subscribeRooms OrderedMap.empty

structure SocketsSound (stream : Stream) : Prop where
  control : ∀ id control, stream.control id = some control → control.Sound
  registered : ∀ id, stream.Registered id → ∃ control, stream.control id = some control ∧
    control.isOpen = true ∧ ∃ user homeId, control.phase = .attached user homeId

theorem SocketsSound.of_same (sound : SocketsSound stream)
    (registered : ∀ id, next.Registered id ↔ stream.Registered id)
    (control : ∀ id, next.control id = stream.control id) : SocketsSound next := by
  refine ⟨?_, ?_⟩
  · intro id found stored
    rw [control] at stored
    exact sound.control id found stored
  · intro id isRegistered
    rw [control]
    exact sound.registered id ((registered id).mp isRegistered)

theorem SocketsSound.of_change (sound : SocketsSound stream) {changed : Control}
    (mine : next.control id = some changed) (own : changed.Sound)
    (control : ∀ other, other ≠ id → next.control other = stream.control other)
    (registered : ∀ other, other ≠ id → next.Registered other → stream.Registered other)
    (attached : next.Registered id → changed.isOpen = true ∧
      ∃ user homeId, changed.phase = .attached user homeId) : SocketsSound next := by
  refine ⟨?_, ?_⟩
  · intro other found stored
    by_cases same : other = id
    · subst same
      rw [mine, Option.some.injEq] at stored
      exact stored ▸ own
    · rw [control other same] at stored
      exact sound.control other found stored
  · intro other isRegistered
    by_cases same : other = id
    · subst same
      exact ⟨changed, mine, attached isRegistered⟩
    · rw [control other same]
      exact sound.registered other (registered other same isRegistered)

theorem control_of_connection (found : stream.connections[id]? = some connection) :
    stream.control id = some connection.control := by
  simp [Stream.control, found]

theorem control_update_self
    (found : stream.connections[id]? = some connection) (change : Connection → Connection) :
    (stream.update id change).control id = some (change connection).control := by
  simp [control_update, found]

theorem control_update_ne (differs : other ≠ id) (change : Connection → Connection) :
    (stream.update id change).control other = stream.control other := by
  rw [control_update, if_neg (Ne.symm differs)]

theorem SocketsSound.not_registered (sound : SocketsSound stream)
    (found : stream.connections[id]? = some connection)
    (apart : ∀ user homeId, connection.phase ≠ .attached user homeId) : ¬stream.Registered id := by
  intro isRegistered
  rcases sound.registered id isRegistered with ⟨control, stored, _, user, homeId, attached⟩
  rw [control_of_connection found, Option.some.injEq] at stored
  subst stored
  exact apart user homeId attached

theorem socketsSound_connect (sound : SocketsSound stream) :
    SocketsSound { stream with connections := stream.connections ++ [.opened] } := by
  refine ⟨?_, ?_⟩
  · intro id control stored
    simp only [Stream.control, List.getElem?_append, Option.map_eq_some_iff] at stored
    rcases stored with ⟨connection, found, rfl⟩
    split at found
    · exact sound.control id _ (control_of_connection found)
    · obtain rfl := List.mem_singleton.mp (List.mem_of_getElem? found)
      exact ⟨by simp [Connection.control, Connection.opened],
        by simp [Connection.control, Connection.opened], fun _ => rfl, rfl⟩
  · intro id isRegistered
    rcases sound.registered id isRegistered with ⟨control, stored, attached⟩
    refine ⟨control, ?_, attached⟩
    simp only [Stream.control, Option.map_eq_some_iff] at stored ⊢
    rcases stored with ⟨connection, found, rfl⟩
    rcases List.getElem?_eq_some_iff.mp found with ⟨bound, _⟩
    exact ⟨connection, by rw [List.getElem?_append_left bound, found], rfl⟩

theorem registered_attach {user homeId : String} :
    (stream.attach id user homeId).Registered other ↔ other = id ∨ stream.Registered other := by
  by_cases same : other = id <;>
    simp [Stream.Registered, Stream.attach, Stream.update, OrderedMap.has, same]

theorem registered_detach {user homeId : String} :
    (stream.detach id user homeId).Registered other ↔ other ≠ id ∧ stream.Registered other := by
  by_cases same : other = id <;> simp [Stream.Registered, Stream.detach, OrderedMap.has, same]

theorem SocketsSound.update_apart (sound : SocketsSound stream)
    (found : stream.connections[id]? = some connection)
    (apart : ∀ user homeId, connection.phase ≠ .attached user homeId)
    (apart' : ∀ user homeId, (change connection).phase ≠ .attached user homeId)
    (abandoned : ∀ user, (change connection).phase = .abandoned user →
      (change connection).received = [])
    (handled : (change connection).handled = connection.handled)
    (rooms : (change connection).subscribedRooms = connection.subscribedRooms) :
    SocketsSound (stream.update id change) := by
  have own := sound.control id _ (control_of_connection found)
  have unheard : connection.handled = [] := own.unheard apart
  refine sound.of_change (control_update_self found change) ?_
    (fun other differs => control_update_ne differs change)
    (fun _ _ isRegistered => isRegistered)
    fun isRegistered => absurd isRegistered (sound.not_registered found apart)
  refine ⟨fun user homeId attached => absurd attached (apart' user homeId), abandoned,
    fun _ => handled.trans unheard, ?_⟩
  calc (change connection).subscribedRooms = connection.subscribedRooms := rooms
    _ = connection.handled.foldl Connection.subscribeRooms OrderedMap.empty := own.rooms
    _ = (change connection).handled.foldl Connection.subscribeRooms OrderedMap.empty := by
      rw [handled]

theorem socketsSound_settle (sound : SocketsSound stream) {reply : StreamReply}
    (inTime : ∀ connection ∈ stream.connections[id]?,
      connection.phase.isGettingHome = true → connection.attachesInTime reply) :
    SocketsSound (stream.settle id reply) := by
  rw [Stream.settle]
  split
  · exact sound
  · rename_i connection found
    have own := sound.control id _ (control_of_connection found)
    have apart (phase : ∀ user homeId, connection.phase ≠ .attached user homeId) :
        connection.handled = [] := own.unheard phase
    split
    · rename_i user phase
      exact sound.update_apart found (by simp [phase]) (by simp) (by simp) rfl rfl
    · rename_i message phase
      refine sound.update_apart found (by simp [phase]) (by simp) (by simp) ?_ ?_
      · exact congrArg Control.handled (control_send _ connection)
      · exact congrArg Control.subscribedRooms (control_send _ connection)
    · rename_i user homeId phase
      rcases inTime connection found (by simp [phase, ConnectionPhase.isGettingHome]) with
        ⟨isOpen, silent⟩
      have unheard : connection.handled = [] := own.unheard (by simp [Connection.control, phase])
      refine sound.of_change (control_update_self found _) ?_
        (fun other differs => control_update_ne differs _) ?_ fun _ => ⟨isOpen, user, _, rfl⟩
      · exact ⟨fun _ _ _ => unheard.trans silent.symm, by simp [Connection.control],
          fun _ => unheard, own.rooms⟩
      · intro other differs isRegistered
        exact (registered_attach.mp isRegistered).resolve_left differs
    · rename_i user message phase
      have silent := inTime connection found (by simp [phase, ConnectionPhase.isGettingHome])
      exact sound.update_apart found (by simp [phase]) (by simp) (fun _ _ => silent) rfl rfl
    · exact sound

theorem socketsSound_close (sound : SocketsSound stream) : SocketsSound (stream.close id) := by
  rw [Stream.close]
  split
  · exact sound
  · rename_i connection found
    have own := sound.control id _ (control_of_connection found)
    split
    · split
      · rename_i user homeId phase
        refine sound.of_change (control_update_self found Connection.close) ?_
          (fun other differs => control_update_ne differs _) ?_ ?_
        · exact ⟨own.attached, own.abandoned, own.unheard, own.rooms⟩
        · exact fun other _ isRegistered => (registered_detach.mp isRegistered).2
        · exact fun isRegistered => absurd rfl (registered_detach.mp isRegistered).1
      all_goals
        rename_i phase
        exact sound.update_apart found (by simp [phase]) (by simp [phase, Connection.close])
          own.abandoned rfl rfl
    · exact sound

theorem getElem?_update_self
    (found : stream.connections[id]? = some connection) (change : Connection → Connection) :
    (stream.update id change).connections[id]? = some (change connection) := by
  simp [Stream.update, found]

theorem control_handleFrame (now : Nat) (frame : Option ClientFrame) (connection : Connection) :
    (connection.handleFrame now frame).control = { connection.control with
        subscribedRooms := Connection.subscribeRooms connection.subscribedRooms frame
        handled := connection.handled ++ [frame] } := by
  have answered : (connection.answer now frame).control = connection.control := by
    unfold Connection.answer
    split
    · exact control_send _ connection
    · exact control_send _ connection
    all_goals rfl
  simp only [Connection.control, Control.mk.injEq] at answered
  simp [Connection.handleFrame, Connection.control, answered]

theorem socketsSound_receive (sound : SocketsSound stream) {frame : Option ClientFrame}
    (heard : ∀ connection ∈ stream.connections[id]?,
      connection.isOpen = true → connection.phase.isAbandoned = false) :
    SocketsSound (stream.receive id frame).1 := by
  simp only [Stream.receive]
  split
  · exact sound
  · rename_i connection found
    have own := sound.control id _ (control_of_connection found)
    split
    · rename_i isOpen
      have notAbandoned := heard connection found isOpen
      split
      · rename_i user homeId phase
        have same : connection.handled = connection.received := own.attached user homeId phase
        have arrived := getElem?_update_self found (Connection.receive frame)
        refine sound.of_change (control_update_self arrived _) ?_ ?_
          (fun _ _ isRegistered => isRegistered) ?_
        · rw [control_handleFrame]
          refine ⟨fun _ _ _ => ?_, ?_, fun apart => absurd phase (apart user homeId), ?_⟩
          · simp [Connection.control, Connection.receive, same]
          · simp [Connection.control, Connection.receive, phase]
          · have rooms : connection.subscribedRooms =
                connection.handled.foldl Connection.subscribeRooms OrderedMap.empty := own.rooms
            simp [Connection.receive, rooms]
        · intro other differs
          rw [control_update_ne differs, control_update_ne differs]
        · intro _
          rw [control_handleFrame]
          exact ⟨isOpen, user, homeId, phase⟩
      all_goals
        rename_i phase
        refine sound.update_apart found (by simp [phase]) (by simp [phase, Connection.receive])
          ?_ rfl rfl
        simp [Connection.receive, phase, ConnectionPhase.isAbandoned] at notAbandoned ⊢
    · exact sound

theorem socketsSound_start (sound : SocketsSound stream) {request : StreamRequest}
    {pending : List StreamCall} (inTime : listensInTime ⟨stream, pending⟩ (.call request)) :
    SocketsSound (stream.start request).1 := by
  cases request with
  | connect => exact socketsSound_connect sound
  | settle id reply => exact socketsSound_settle sound inTime
  | frame id frame => exact socketsSound_receive sound inTime
  | close id => exact socketsSound_close sound
  | notification notification =>
    have same := sameControl_notify stream notification
    exact sound.of_same same.registered same.control
  | stateEvent _ | sceneRun _ | driverState _ | online | tick _ =>
    exact sound.of_same (fun _ => Iff.rfl) fun _ => rfl

end Steps

theorem socketsSound_step : ∀ config label next,
    Program.Holds SocketsSound (fun _ _ => True) config → listensInTime config label →
    streamProgram.machine.step config label = some next →
    Program.Holds SocketsSound (fun _ _ => True) next := by
  apply Program.holds_step
  · intro config request sound inTime
    exact ⟨socketsSound_start sound.1 inTime, fun _ _ => trivial, fun _ _ => trivial⟩
  · intro config before call after reply shared more sound _ _ resumed
    have same := sameControl_resume resumed
    exact ⟨sound.1.of_same same.registered same.control, fun _ _ => trivial, fun _ _ => trivial⟩

theorem socketsSound_initial (homeId : String) (now : Nat) :
    SocketsSound (Stream.initial homeId now) := by
  refine ⟨by simp [Stream.control, Stream.initial], ?_⟩
  simp [Stream.Registered, Stream.initial, OrderedMap.has]

theorem SocketsSound.heard {config : Config Stream StreamCall}
    (sound : SocketsSound config.shared) (quiet : Quiet config) {id : Nat}
    {connection : Connection} {user : String}
    (found : config.shared.connections[id]? = some connection)
    (authenticated : connection.phase.user = some user) :
    connection.handled = connection.received := by
  have own := sound.control id _ (control_of_connection found)
  have settled := quiet.2 connection (List.mem_of_getElem? found)
  cases phase : connection.phase with
  | authenticating | unauthorized => simp [phase, ConnectionPhase.user] at authenticated
  | gettingHome user => simp [phase, ConnectionPhase.Settled] at settled
  | abandoned user =>
    have silent : connection.received = [] := own.abandoned user phase
    have unheard : connection.handled = [] :=
      own.unheard (by simp [Connection.control, phase])
    rw [silent, unheard]
  | attached user homeId => exact own.attached user homeId phase

/-- Connections are tidy in every run in which each is listened to in time. -/
theorem connections_tidy (homeId : String) (now : Nat)
    (labels : List (Schedule StreamRequest StreamReply))
    (guarded : streamProgram.machine.Guarded listensInTime
      (Program.idle (.initial homeId now)) labels) :
    streamProgram.machine.Throughout ConnectionsTidy
      (Program.idle (.initial homeId now)) labels := by
  have initial : Program.Holds SocketsSound (fun _ (_ : StreamCall) => True)
      (Program.idle (.initial homeId now)) := Program.holds_idle (socketsSound_initial homeId now)
  apply (Machine.throughout_of_guarded socketsSound_step initial guarded).mono
  rintro config ⟨sockets, _⟩
  refine ⟨?_, ?_, ?_⟩
  · intro _ id connection found closed isRegistered
    rcases sockets.registered id isRegistered with ⟨control, stored, isOpen, _⟩
    rw [control_of_connection found, Option.some.injEq] at stored
    subst stored
    exact absurd (isOpen.symm.trans closed) (by decide)
  · intro quiet id connection user found authenticated
    exact sockets.heard quiet found authenticated
  · intro quiet id connection user found authenticated
    rw [← sockets.heard quiet found authenticated]
    exact (sockets.control id _ (control_of_connection found)).rooms

/-- Two sockets open, one is attached and subscribes, and both close. -/
theorem attached_then_closed :
    streamProgram.machine.Throughout ConnectionsTidy (Program.idle (.initial "home" 0))
      [.call .connect, .call .connect, .call (.settle 0 (.user "ann")),
        .call (.settle 1 (.rejected none)), .call (.settle 0 (.home none)),
        .call (.frame 0 (some (.subscribe ["*"]))), .call (.frame 0 none), .call (.close 0)] :=
  connections_tidy "home" 0 _ (by decide +kernel)

/-- A socket that closes while the home is read keeps its subscribers. -/
theorem closed_early_stays_registered : ¬ ∀ labels : List (Schedule StreamRequest StreamReply),
      streamProgram.machine.Throughout ConnectionsTidy (Program.idle (.initial "home" 0))
        labels := by
  intro tidy
  have last := Machine.property_of_throughout
    (tidy [.call .connect, .call (.settle 0 (.user "ann")), .call (.close 0),
      .call (.settle 0 (.home none))]) rfl
  exact last.unregistered (by decide +kernel) 0 _ rfl rfl (.inl rfl)

end SupremeOs.Gateway
